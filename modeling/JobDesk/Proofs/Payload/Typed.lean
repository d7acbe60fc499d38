import Mathlib.Data.List.Forall2
import JobDesk.Payload.Typed
import JobDesk.Proofs.Outcome
import JobDesk.Proofs.Payload.RoundTrip

/-!
# Typed configs — what is looked at stands for what is written

A typed config has a JSON form, which is looked at for keys with a zero, and a tree, which is
written.  Where no character and no run of bytes is in the config and no key is repeated, the tree
stands for the JSON form: up to `2 ^ 32` bytes it is read back as that form, as the payload of the
form itself is.
-/

namespace JobDesk

open Flexbuffer (Tree)
open Payload (EncodeFault holdsZero zeroKey? zeroKeyOfItems? zeroKeyOfMembers?)

/-! ## 1. Lists of results -/

section

variable {ε α β : Type} {step : α → Except ε β}

/-- Results made one after the other, the last first, are in the end those of all items. -/
theorem collect_eq {collect : List α → List β → Except ε (List β)}
    (hnil : ∀ made, collect [] made = .ok made.reverse)
    (hcons : ∀ item rest made,
      collect (item :: rest) made = step item >>= fun next => collect rest (next :: made))
    (items : List α) (made : List β) :
    collect items made = (items.mapM step).map (made.reverse ++ ·) := by
  induction items generalizing made with
  | nil =>
    rw [hnil, List.mapM_nil]
    exact congrArg Except.ok (List.append_nil _).symm
  | cons item rest ih =>
    rw [hcons, List.mapM_cons]
    cases step item with
    | error fault => rfl
    | ok next =>
      show collect rest (next :: made) = _
      rw [ih]
      cases rest.mapM step with
      | error fault => rfl
      | ok others =>
        refine congrArg Except.ok ?_
        show (next :: made).reverse ++ others = made.reverse ++ next :: others
        rw [List.reverse_cons, List.append_assoc]
        rfl

theorem collect_nil {collect : List α → List β → Except ε (List β)}
    (hnil : ∀ made, collect [] made = .ok made.reverse)
    (hcons : ∀ item rest made,
      collect (item :: rest) made = step item >>= fun next => collect rest (next :: made))
    (items : List α) : collect items [] = items.mapM step := by
  rw [collect_eq hnil hcons]
  cases items.mapM step <;> rfl

theorem ok_of_mapM_cons {item : α} {rest : List α} {all : List β}
    (h : (item :: rest).mapM step = .ok all) :
    ∃ first others, step item = .ok first ∧ rest.mapM step = .ok others ∧
      all = first :: others := by
  rw [List.mapM_cons] at h
  obtain ⟨first, hfirst, h⟩ := ok_of_bind h
  obtain ⟨others, hothers, h⟩ := ok_of_bind h
  exact ⟨first, others, hfirst, hothers, (Except.ok.inj h).symm⟩

end

/-! ## 2. Members -/

namespace Json

variable {α : Type} {members : List (String × α)}

/-- Where no key is repeated, sorting brings members into order and loses none. -/
theorem sortMembers_perm (h : (members.map (·.1)).Nodup) : (sortMembers members).Perm members := by
  have hperm := List.mergeSort_perm members fun a b => !decide (b.1 < a.1)
  have hkeys := List.pairwise_map.mp ((hperm.map (·.1)).nodup_iff.mpr h)
  have hstrict := ((pairwise_sorted members).and hkeys).imp fun {a b} hab =>
    show a.1 < b.1 from String.not_le.mp fun hle => hab.2 (String.le_antisymm hab.1 hle)
  rw [sortMembers, keepLast_eq_self hstrict]
  exact hperm

end Json

theorem Payload.zeroKeyOfMembers?_eq_none {members : List (String × Json)} :
    zeroKeyOfMembers? members = none ↔
      ∀ member ∈ members, holdsZero member.1 = false ∧ zeroKey? member.2 = none := by
  induction members with
  | nil => simp [zeroKeyOfMembers?]
  | cons member rest ih =>
    obtain ⟨key, value⟩ := member
    rw [zeroKeyOfMembers?, List.forall_mem_cons, ← ih]
    cases holdsZero key with
    | true => simp
    | false => cases zeroKey? value <;> simp

/-! ## 3. Trees that stand for JSON values -/

namespace Flexbuffer.Tree

/-- A tree is read back as a JSON value, and JSON holds the tree if the value has no key with a
zero. -/
structure StandsFor (tree : Tree) (shape : Json) : Prop where
  value : tree.value = shape
  ordered : shape.Ordered
  plain : zeroKey? shape = none → tree.Plain

structure MemberStandsFor (member : String × Tree) (shape : String × Json) : Prop where
  key : member.1 = shape.1
  tree : member.2.StandsFor shape.2

variable {trees : List Tree} {members : List (String × Tree)} {shapes : List Json}
variable {fields : List (String × Json)}

theorem standsFor_int (n : Int64) : (int n).StandsFor (Json.ofInt64 n) := by
  have hlow := n.le_toInt
  have hhigh := n.toInt_lt
  refine ⟨?_, trivial, fun _ => trivial⟩
  rw [value, Json.ofInt, dif_pos (by omega)]
  rfl

theorem standsFor_uint (n : UInt64) : (uint n).StandsFor (Json.ofUInt64 n) := by
  have hhigh := n.toNat_lt
  refine ⟨?_, trivial, fun _ => trivial⟩
  rw [value, Json.ofInt, dif_pos (by omega)]
  rfl

theorem standsFor_float (x : Binary64) : (float x).StandsFor (Json.ofDouble x) :=
  ⟨rfl, Json.ordered_ofDouble x, fun _ => trivial⟩

theorem standsFor_vector (h : List.Forall₂ StandsFor trees shapes) :
    (vector trees).StandsFor (.array shapes) := by
  suffices hall : values trees = shapes ∧ Json.OrderedItems shapes ∧
      (zeroKeyOfItems? shapes = none → PlainItems trees) by
    obtain ⟨hvalues, hordered, hplain⟩ := hall
    refine ⟨by rw [value, hvalues], hordered, fun hzero => ?_⟩
    rw [zeroKey?] at hzero
    exact hplain hzero
  induction h with
  | nil => exact ⟨rfl, trivial, fun _ => trivial⟩
  | @cons tree shape trees shapes hfirst _ ih =>
    obtain ⟨hvalues, hordered, hplain⟩ := ih
    refine ⟨by rw [values, hfirst.value, hvalues], ⟨hfirst.ordered, hordered⟩, fun hzero => ?_⟩
    rw [zeroKeyOfItems?] at hzero
    cases hshape : zeroKey? shape with
    | some key =>
      rw [hshape] at hzero
      cases hzero
    | none =>
      rw [hshape] at hzero
      exact ⟨hfirst.plain hshape, hplain hzero⟩

theorem memberValues_eq (h : List.Forall₂ MemberStandsFor members fields) :
    memberValues members = fields := by
  induction h with
  | nil => rfl
  | @cons member field _ _ hfirst _ ih =>
    rw [memberValues, ih]
    exact congrArg (· :: _) (Prod.ext hfirst.key hfirst.tree.value)

theorem keys_eq (h : List.Forall₂ MemberStandsFor members fields) :
    members.map (·.1) = fields.map (·.1) := by
  induction h with
  | nil => rfl
  | cons hfirst _ ih => rw [List.map_cons, List.map_cons, hfirst.key, ih]

theorem ordered_fields (h : List.Forall₂ MemberStandsFor members fields) :
    ∀ field ∈ fields, field.2.Ordered := by
  induction h with
  | nil => exact fun _ hmem => absurd hmem List.not_mem_nil
  | cons hfirst _ ih => exact List.forall_mem_cons.mpr ⟨hfirst.tree.ordered, ih⟩

theorem plainMembers (h : List.Forall₂ MemberStandsFor members fields)
    (hzero : ∀ field ∈ fields, holdsZero field.1 = false ∧ zeroKey? field.2 = none) :
    PlainMembers members := by
  induction h with
  | nil => trivial
  | @cons member field _ _ hfirst _ ih =>
    obtain ⟨key, tree⟩ := member
    obtain ⟨⟨hkey, hvalue⟩, hrest⟩ := List.forall_mem_cons.mp hzero
    rw [← hfirst.key] at hkey
    exact ⟨Payload.notMem_of_holdsZero hkey, hfirst.tree.plain hvalue, ih hrest⟩

/-- A key that is repeated would hide the value that was given first from who looks for zeros. -/
theorem standsFor_map (h : List.Forall₂ MemberStandsFor members fields)
    (hkeys : (fields.map (·.1)).Nodup) : (map members).StandsFor (Json.ofMembers fields) := by
  refine ⟨by rw [value, memberValues_eq h], Json.ordered_ofMembers (ordered_fields h), ?_⟩
  intro hzero
  rw [Json.ofMembers, zeroKey?, Payload.zeroKeyOfMembers?_eq_none] at hzero
  have hperm := Json.sortMembers_perm hkeys
  exact plainMembers h fun field hmem => hzero field (hperm.mem_iff.mpr hmem)

end Flexbuffer.Tree

/-! ## 4. Typed values -/

namespace Typed

def memberToJson (member : Typed × Typed) : Except EncodeFault (String × Json) := do
  let name ← jsonKey member.1
  return (name, ← toJson member.2)

def fieldToJson (field : String × Typed) : Except EncodeFault (String × Json) := do
  return (field.1, ← toJson field.2)

def memberToTree (member : Typed × Typed) : Except EncodeFault (String × Tree) := do
  let name ← bufferKey member.1
  return (name, ← toTree member.2)

def fieldToTree (field : String × Typed) : Except EncodeFault (String × Tree) := do
  return (field.1, ← toTree field.2)

theorem itemsToJson_eq (items : List Typed) : itemsToJson items [] = items.mapM toJson :=
  collect_nil (fun _ => by rw [itemsToJson]) (fun _ _ _ => by rw [itemsToJson]) items

theorem membersToJson_eq (members : List (Typed × Typed)) :
    membersToJson members [] = members.mapM memberToJson :=
  collect_nil (fun _ => by rw [membersToJson])
    (fun _ _ _ => by rw [membersToJson, memberToJson]; simp only [bind_assoc, pure_bind]) members

theorem fieldsToJson_eq (fields : List (String × Typed)) :
    fieldsToJson fields [] = fields.mapM fieldToJson :=
  collect_nil (fun _ => by rw [fieldsToJson])
    (fun _ _ _ => by rw [fieldsToJson, fieldToJson]; simp only [bind_assoc, pure_bind]) fields

theorem itemsToTree_eq (items : List Typed) : itemsToTree items [] = items.mapM toTree :=
  collect_nil (fun _ => by rw [itemsToTree]) (fun _ _ _ => by rw [itemsToTree]) items

theorem membersToTree_eq (members : List (Typed × Typed)) :
    membersToTree members [] = members.mapM memberToTree :=
  collect_nil (fun _ => by rw [membersToTree])
    (fun _ _ _ => by rw [membersToTree, memberToTree]; simp only [bind_assoc, pure_bind]) members

theorem fieldsToTree_eq (fields : List (String × Typed)) :
    fieldsToTree fields [] = fields.mapM fieldToTree :=
  collect_nil (fun _ => by rw [fieldsToTree])
    (fun _ _ _ => by rw [fieldsToTree, fieldToTree]; simp only [bind_assoc, pure_bind]) fields

theorem jsonKey_of_bufferKey {key : Typed} {name : String} (h : bufferKey key = .ok name) :
    jsonKey key = .ok name := by
  fun_induction bufferKey key with
  | case1 value => exact h
  | case2 value => exact h
  | case3 value ih => exact ih h
  | case4 key => cases h

mutual

/-- A value without characters and runs of bytes, and without a key that is repeated. -/
def Plain : Typed → Prop
  | char _ | blob _ => False
  | present value | named value | variantOf _ value => Plain value
  | list items => PlainItems items
  | map members =>
    (members.filterMap fun member => (bufferKey member.1).toOption).Nodup ∧ PlainMembers members
  | record fields => (fields.map (·.1)).Nodup ∧ PlainFields fields
  | _ => True

def PlainItems : List Typed → Prop
  | [] => True
  | item :: rest => Plain item ∧ PlainItems rest

def PlainMembers : List (Typed × Typed) → Prop
  | [] => True
  | (_, value) :: rest => Plain value ∧ PlainMembers rest

def PlainFields : List (String × Typed) → Prop
  | [] => True
  | (_, value) :: rest => Plain value ∧ PlainFields rest

end

variable {members : List (Typed × Typed)} {fields : List (String × Typed)}

theorem keys_of_membersToTree {trees : List (String × Tree)}
    (h : members.mapM memberToTree = .ok trees) :
    (members.filterMap fun member => (bufferKey member.1).toOption) = trees.map (·.1) := by
  induction members generalizing trees with
  | nil =>
    obtain rfl := Except.ok.inj h
    rfl
  | cons member rest ih =>
    obtain ⟨first, others, hfirst, hothers, rfl⟩ := ok_of_mapM_cons h
    obtain ⟨name, hname, hvalue⟩ := ok_of_bind hfirst
    obtain ⟨tree, -, hpair⟩ := ok_of_bind hvalue
    obtain rfl := Except.ok.inj hpair
    rw [List.filterMap_cons, hname, ih hothers]
    rfl

theorem keys_of_fieldsToJson {shapes : List (String × Json)}
    (h : fields.mapM fieldToJson = .ok shapes) : shapes.map (·.1) = fields.map (·.1) := by
  induction fields generalizing shapes with
  | nil =>
    obtain rfl := Except.ok.inj h
    rfl
  | cons field rest ih =>
    obtain ⟨first, others, hfirst, hothers, rfl⟩ := ok_of_mapM_cons h
    obtain ⟨shape, -, hpair⟩ := ok_of_bind hfirst
    obtain rfl := Except.ok.inj hpair
    rw [List.map_cons, List.map_cons, ih hothers]

mutual

theorem standsFor (config : Typed) (hplain : config.Plain) {shape : Json} {tree : Tree}
    (hshape : config.toJson = .ok shape) (htree : config.toTree = .ok tree) :
    tree.StandsFor shape := by
  cases config with
  | char | blob => cases hplain
  | wideInt | wideUInt | refused => cases htree
  | int n =>
    obtain rfl := Except.ok.inj hshape
    obtain rfl := Except.ok.inj htree
    exact Tree.standsFor_int n
  | uint n =>
    obtain rfl := Except.ok.inj hshape
    obtain rfl := Except.ok.inj htree
    exact Tree.standsFor_uint n
  | single | double =>
    obtain rfl := Except.ok.inj hshape
    obtain rfl := Except.ok.inj htree
    exact Tree.standsFor_float _
  | bool | string | unit | variant =>
    obtain rfl := Except.ok.inj hshape
    obtain rfl := Except.ok.inj htree
    exact ⟨rfl, trivial, fun _ => trivial⟩
  | present value | named value =>
    rw [toJson] at hshape
    rw [toTree] at htree
    exact standsFor value hplain hshape htree
  | variantOf name value =>
    -- A name around a value is a map of one member, which is in order.
    obtain ⟨inner, hinner, hobject⟩ := ok_of_bind hshape
    obtain ⟨child, hchild, hmap⟩ := ok_of_bind htree
    obtain rfl := Except.ok.inj hobject
    obtain rfl := Except.ok.inj hmap
    have hmember : Tree.MemberStandsFor (name, child) (name, inner) :=
      ⟨rfl, standsFor value hplain hinner hchild⟩
    rw [← Json.ofMembers_of_pairwise (List.pairwise_singleton _ name)]
    exact Tree.standsFor_map (.cons hmember .nil) (List.pairwise_singleton _ name)
  | list items =>
    obtain ⟨shapes, hshapes, harray⟩ := ok_of_bind hshape
    obtain ⟨trees, htrees, hvector⟩ := ok_of_bind htree
    obtain rfl := Except.ok.inj harray
    obtain rfl := Except.ok.inj hvector
    rw [itemsToJson_eq] at hshapes
    rw [itemsToTree_eq] at htrees
    exact Tree.standsFor_vector (items_standFor items hplain hshapes htrees)
  | map members =>
    obtain ⟨shapes, hshapes, hobject⟩ := ok_of_bind hshape
    obtain ⟨trees, htrees, hmap⟩ := ok_of_bind htree
    obtain rfl := Except.ok.inj hobject
    obtain rfl := Except.ok.inj hmap
    rw [membersToJson_eq] at hshapes
    rw [membersToTree_eq] at htrees
    have hmembers := members_standFor members hplain.2 hshapes htrees
    -- Neither the writing nor the reading form changes the keys.
    refine Tree.standsFor_map hmembers ?_
    rw [← Tree.keys_eq hmembers, ← keys_of_membersToTree htrees]
    exact hplain.1
  | record fields =>
    obtain ⟨shapes, hshapes, hobject⟩ := ok_of_bind hshape
    obtain ⟨trees, htrees, hmap⟩ := ok_of_bind htree
    obtain rfl := Except.ok.inj hobject
    obtain rfl := Except.ok.inj hmap
    rw [fieldsToJson_eq] at hshapes
    rw [fieldsToTree_eq] at htrees
    refine Tree.standsFor_map (fields_standFor fields hplain.2 hshapes htrees) ?_
    rw [keys_of_fieldsToJson hshapes]
    exact hplain.1

theorem items_standFor (items : List Typed) (hplain : PlainItems items) {shapes : List Json}
    {trees : List Tree} (hshapes : items.mapM toJson = .ok shapes)
    (htrees : items.mapM toTree = .ok trees) : List.Forall₂ Tree.StandsFor trees shapes := by
  cases items with
  | nil =>
    obtain rfl := Except.ok.inj hshapes
    obtain rfl := Except.ok.inj htrees
    exact .nil
  | cons item rest =>
    obtain ⟨shape, others, hshape, hothers, rfl⟩ := ok_of_mapM_cons hshapes
    obtain ⟨tree, more, htree, hmore, rfl⟩ := ok_of_mapM_cons htrees
    exact .cons (standsFor item hplain.1 hshape htree)
      (items_standFor rest hplain.2 hothers hmore)

theorem members_standFor (members : List (Typed × Typed)) (hplain : PlainMembers members)
    {shapes : List (String × Json)} {trees : List (String × Tree)}
    (hshapes : members.mapM memberToJson = .ok shapes)
    (htrees : members.mapM memberToTree = .ok trees) :
    List.Forall₂ Tree.MemberStandsFor trees shapes := by
  cases members with
  | nil =>
    obtain rfl := Except.ok.inj hshapes
    obtain rfl := Except.ok.inj htrees
    exact .nil
  | cons member rest =>
    obtain ⟨key, value⟩ := member
    obtain ⟨first, others, hfirst, hothers, rfl⟩ := ok_of_mapM_cons hshapes
    obtain ⟨second, more, hsecond, hmore, rfl⟩ := ok_of_mapM_cons htrees
    obtain ⟨text, htext, hfirst⟩ := ok_of_bind hfirst
    obtain ⟨shape, hshape, hfirst⟩ := ok_of_bind hfirst
    obtain ⟨name, hname, hsecond⟩ := ok_of_bind hsecond
    obtain ⟨tree, htree, hsecond⟩ := ok_of_bind hsecond
    obtain rfl := Except.ok.inj hfirst
    obtain rfl := Except.ok.inj hsecond
    -- Of the keys that JSON has a text for, only some can be written, with the same text.
    obtain rfl := Except.ok.inj ((jsonKey_of_bufferKey hname).symm.trans htext)
    exact .cons ⟨rfl, standsFor value hplain.1 hshape htree⟩
      (members_standFor rest hplain.2 hothers hmore)

theorem fields_standFor (fields : List (String × Typed)) (hplain : PlainFields fields)
    {shapes : List (String × Json)} {trees : List (String × Tree)}
    (hshapes : fields.mapM fieldToJson = .ok shapes)
    (htrees : fields.mapM fieldToTree = .ok trees) :
    List.Forall₂ Tree.MemberStandsFor trees shapes := by
  cases fields with
  | nil =>
    obtain rfl := Except.ok.inj hshapes
    obtain rfl := Except.ok.inj htrees
    exact .nil
  | cons field rest =>
    obtain ⟨name, value⟩ := field
    obtain ⟨first, others, hfirst, hothers, rfl⟩ := ok_of_mapM_cons hshapes
    obtain ⟨second, more, hsecond, hmore, rfl⟩ := ok_of_mapM_cons htrees
    obtain ⟨shape, hshape, hfirst⟩ := ok_of_bind hfirst
    obtain ⟨tree, htree, hsecond⟩ := ok_of_bind hsecond
    obtain rfl := Except.ok.inj hfirst
    obtain rfl := Except.ok.inj hsecond
    exact .cons ⟨rfl, standsFor value hplain.1 hshape htree⟩
      (fields_standFor rest hplain.2 hothers hmore)

end

end Typed

/-! ## 5. Payloads of typed configs -/

namespace Payload

theorem encodeTyped_eq_ok_iff {config : Typed} {bytes : Bytes} :
    encodeTyped config = .ok bytes ↔ ∃ shape tree, config.toJson = .ok shape ∧
      zeroKey? shape = none ∧ config.toTree = .ok tree ∧ tree.toBytes = bytes := by
  constructor
  · intro h
    obtain ⟨shape, hshape, h⟩ := ok_of_bind h
    cases hzero : zeroKey? shape with
    | some key =>
      simp only [hzero] at h
      cases h
    | none =>
      simp only [hzero] at h
      obtain ⟨tree, htree, hbytes⟩ := ok_of_bind h
      exact ⟨shape, tree, hshape, hzero, htree, Except.ok.inj hbytes⟩
  · rintro ⟨shape, tree, hshape, hzero, htree, rfl⟩
    simp only [encodeTyped, hshape, hzero, htree, bind, Except.bind]
    rfl

theorem zeroKey?_ofDouble (x : Binary64) : zeroKey? (Json.ofDouble x) = none := by
  unfold Json.ofDouble
  split <;> rfl

theorem zeroKey?_ofMembers {members : List (String × Json)}
    (h : ∀ member ∈ members, holdsZero member.1 = false ∧ zeroKey? member.2 = none) :
    zeroKey? (Json.ofMembers members) = none := by
  rw [Json.ofMembers, zeroKey?, zeroKeyOfMembers?_eq_none]
  exact fun member hmem => h member (Json.mem_of_mem_sortMembers hmem)

/-- What is looked at and what is written agree. The payload of a plain typed config, if it has at
most `2 ^ 32` bytes, is decoded to the JSON form of the config, which has a payload too, and up to
that size that one is decoded to the same form. -/
theorem typed_decoded_as_looked_at {config : Typed} {bytes : Bytes} (hplain : config.Plain)
    (hencode : encodeTyped config = .ok bytes) (hsize : bytes.size ≤ 0x100000000) :
    ∃ shape generic, config.toJson = .ok shape ∧ decode bytes = .ok shape ∧
      encode shape = .ok generic ∧
      (generic.size ≤ 0x100000000 → decode generic = .ok shape) := by
  obtain ⟨shape, tree, hshape, hzero, htree, rfl⟩ := encodeTyped_eq_ok_iff.mp hencode
  obtain ⟨hvalue, hordered, hread⟩ := config.standsFor hplain hshape htree
  refine ⟨shape, _, hshape, ?_, encode_eq_ok_iff.mpr ⟨hzero, rfl⟩, fun hgeneric => ?_⟩
  · rw [decode, Tree.toJson_toBytes (hread hzero) (Tree.inReach_of_size hsize) (by omega), hvalue]
  · exact decode_toBytes hordered hzero (by omega) (Tree.inReach_of_size hgeneric)

/-- A record with its fields out of order: numbers of several widths, variants, and a zero that is
in no key. -/
def mixedTyped : Typed :=
  .record [("range", .list [.int (-9223372036854775808), .uint 18446744073709551615, .int 7]),
    ("limit", .present (.variantOf "At" (.double ⟨0x7ff8000000000000⟩))),
    ("by", .map [(.named (.variant "mass"), .single 0x3dcccccd), (.string "", .string "\x00")])]

theorem mixedTyped_decoded_as_looked_at :
    ∃ bytes shape, encodeTyped mixedTyped = .ok bytes ∧ mixedTyped.toJson = .ok shape ∧
      decode bytes = .ok shape := by
  have hplain : mixedTyped.Plain := by
    simp [mixedTyped, Typed.Plain, Typed.PlainItems, Typed.PlainFields, Typed.PlainMembers,
      Typed.bufferKey, Except.toOption]
  obtain ⟨tree, htree, hbulk⟩ : ∃ tree, mixedTyped.toTree = .ok tree ∧ tree.bulk ≤ 1000 :=
    ⟨_, rfl, by decide⟩
  have hsize := Tree.size_toBytes_le tree
  obtain ⟨shape, hshape, hzero⟩ : ∃ shape, mixedTyped.toJson = .ok shape ∧
      zeroKey? shape = none := by
    have hby : ∀ x, zeroKey? (Json.ofMembers
        [("mass", Json.ofDouble x), ("", .string "\x00")]) = none := fun x =>
      zeroKey?_ofMembers (by simp [holdsZero_eq_any, zeroKey?, zeroKey?_ofDouble])
    refine ⟨_, rfl, zeroKey?_ofMembers ?_⟩
    simp [holdsZero_eq_any, zeroKey?, zeroKeyOfItems?, zeroKeyOfMembers?, zeroKey?_ofDouble,
      Json.ofInt64, Json.ofUInt64, hby]
  have hencode := encodeTyped_eq_ok_iff.mpr ⟨shape, tree, hshape, hzero, htree, rfl⟩
  obtain ⟨form, -, hform, hdecode, -⟩ := typed_decoded_as_looked_at hplain hencode (by omega)
  exact ⟨_, form, hencode, hform, hdecode⟩

/-- A typed list of one text that is too long for a slot of four bytes to refer to it. -/
def longTyped : Typed := .list [.string Flexbuffer.limitText]

/-- A payload of `2 ^ 32 + 12` bytes is decoded to another value than was looked at. -/
theorem longTyped_lost :
    longTyped.Plain ∧ ∃ bytes shape, encodeTyped longTyped = .ok bytes ∧ bytes.size = 0x10000000c ∧
      longTyped.toJson = .ok shape ∧ ∃ other, decode bytes = .ok other ∧ shape ≠ other := by
  have hplain : longTyped.Plain := by
    simp only [longTyped, Typed.Plain, Typed.PlainItems, and_self]
  have hshape : longTyped.toJson = .ok longConfig := by
    simp only [longTyped, Typed.toJson, Typed.itemsToJson, bind, Except.bind]
    rfl
  have hzero : zeroKey? longConfig = none := by
    simp only [longConfig, zeroKey?, zeroKeyOfItems?]
  have htree : longTyped.toTree = .ok (.vector [.string Flexbuffer.limitText]) := by
    simp only [longTyped, Typed.toTree, Typed.itemsToTree, bind, Except.bind]
    rfl
  exact ⟨hplain, _, longConfig,
    encodeTyped_eq_ok_iff.mpr ⟨longConfig, _, hshape, hzero, htree, rfl⟩,
    Flexbuffer.size_toBytes_limit Flexbuffer.size_ofText_limitText, hshape, _, decode_longPayload⟩

end Payload

end JobDesk
