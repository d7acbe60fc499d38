import JobDesk.Flexbuffer.Slot
import JobDesk.Flexbuffer.Tree
import Std.Data.HashMap

/-!
# Writer — from trees to buffers

Values are written in the order of the tree, the items of a list before the list and the key of a
member before its value.  Texts and lists take room in the buffer when they are written; numbers
wait for the list that holds them.  All slots of a list have one width, which is the widest that any
of them asks for.  A key that is in the buffer already is not written again.
-/

namespace JobDesk.Flexbuffer

structure Writer where
  bytes : Bytes := #[]
  keys : Std.HashMap String Nat := {}
  deriving Inhabited

namespace Writer

/-! ## 1. Texts -/

def pad (width : Width) (bytes : Bytes) : Bytes :=
  bytes ++ List.replicate ((width.bytes - bytes.size % width.bytes) % width.bytes) (0 : UInt8)

def putSized (w : Writer) (kind : Kind) (content : Bytes) (tail : List UInt8) : Slot × Writer :=
  let width := Width.ofWord content.size
  let bytes := pad width w.bytes ++ Bytes.ofWord width.bytes content.size
  (.reference kind width bytes.size, { w with bytes := bytes ++ content ++ tail })

def putString (w : Writer) (text : String) : Slot × Writer :=
  w.putSized .string (Bytes.ofText text) [0]

def putBlob (w : Writer) (content : Bytes) : Slot × Writer :=
  w.putSized .blob content []

/-- A key, closed by a zero; the address of an earlier one if it stands in the buffer. -/
def putKey (w : Writer) (key : String) : Slot × Writer :=
  match w.keys[key]? with
  | some address => (.reference .key .w8 address, w)
  | none =>
    (.reference .key .w8 w.bytes.size,
      { bytes := (w.bytes ++ Bytes.ofText key).push 0, keys := w.keys.insert key w.bytes.size })

/-! ## 2. Lists -/

/-- The width of a list that starts at `start`: the widest that one of its slots asks for. -/
def listWidth (start : Nat) (slots : List Slot) : Width :=
  (slots.foldl (fun (width, index) slot => (width.max (slot.width start index), index + 1))
    (Width.w8, 0)).1

def putSlots (width : Width) (slots : List Slot) (bytes : Bytes) : Bytes :=
  slots.foldl
    (fun bytes slot => bytes ++ Bytes.ofWord width.bytes (slot.word width bytes.size)) bytes

def putTypes (width : Width) (slots : List Slot) (bytes : Bytes) : Bytes :=
  slots.foldl (fun bytes slot => bytes.push (slot.kind.typeByte (slot.typeWidth width))) bytes

/-- A list of slots after its head; the list's address is behind the head. -/
def putList (w : Writer) (kind : Kind) (head items : List Slot) (hasTypes : Bool) : Slot × Writer :=
  let ⟨bytes, keys⟩ := w
  let width := listWidth bytes.size (head ++ items)
  let bytes := putSlots width head (pad width bytes)
  let address := bytes.size
  let bytes := putSlots width items bytes
  (.reference kind width address,
    ⟨if hasTypes then putTypes width items bytes else bytes, keys⟩)

def putVector (w : Writer) (items : List Slot) : Slot × Writer :=
  let count := Slot.uint items.length
  match Slot.uniform? items with
  | some (.numbers item) =>
    match FixedLength.ofCount? items.length with
    -- The kind tells the length, so that no slot has to.
    | some length => w.putList (.fixed length item) [] items false
    | none => w.putList (.numbers item) [count] items false
  | some .bools => w.putList .bools [count] items false
  | none => w.putList .vector [count] items true

/-! ## 3. Maps -/

structure Entry where
  name : String
  key : Slot
  value : Slot
  deriving Inhabited

def putKeys (w : Writer) (keys : List Slot) : Slot × Writer :=
  if keys.isEmpty then w.putVector [] else w.putList .keys [.uint keys.length] keys false

def slotBytes : Slot → Nat
  | .reference _ child _ => child.bytes
  | _ => 0

/-- A map whose members are written: first its keys, in their order, then its values. -/
def putMap (w : Writer) (entries : List Entry) : Slot × Writer :=
  let entries := entries.mergeSort fun a b => !decide (b.name < a.name)
  -- The head of the map points back to the list of its keys.
  let (keys, w) := w.putKeys (entries.map (·.key))
  w.putList .map [keys, .uint (slotBytes keys), .uint entries.length] (entries.map (·.value)) true

/-! ## 4. Trees -/

mutual

def put : Tree → Writer → Slot × Writer
  | .null, w => (.null, w)
  | .bool value, w => (.bool value, w)
  | .int value, w => (.int value, w)
  | .uint value, w => (.uint value.toNat, w)
  | .float value, w => (.float value, w)
  | .string value, w => w.putString value
  | .blob value, w => w.putBlob value
  | .vector items, w =>
    let (slots, w) := putItems items w []
    w.putVector slots
  | .map members, w =>
    let (entries, w) := putMembers members w []
    w.putMap entries

/-- The items of a list; `slots` holds those already written, the last first. -/
def putItems : List Tree → Writer → List Slot → List Slot × Writer
  | [], w, slots => (slots.reverse, w)
  | item :: rest, w, slots =>
    let (slot, w) := put item w
    putItems rest w (slot :: slots)

/-- The members of a map; `entries` holds those already written, the last first. -/
def putMembers : List (String × Tree) → Writer → List Entry → List Entry × Writer
  | [], w, entries => (entries.reverse, w)
  | (name, value) :: rest, w, entries =>
    let (key, w) := w.putKey name
    let (value, w) := put value w
    putMembers rest w (⟨name, key, value⟩ :: entries)

end

/-- The end of a buffer: the slot of the whole value, its type byte and its width. -/
def finish (w : Writer) (root : Slot) : Bytes :=
  let width := root.width w.bytes.size 0
  let bytes := putSlots width [root] (pad width w.bytes)
  (putTypes width [root] bytes).push (UInt8.ofNat width.bytes)

end Writer

def Tree.toBytes (tree : Tree) : Bytes :=
  let (root, w) := Writer.put tree {}
  w.finish root

end JobDesk.Flexbuffer
