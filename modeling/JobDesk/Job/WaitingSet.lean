import JobDesk.Job.Status

/-!
# WaitingSet — the codes that a wait goes on with

A waiting set keeps its codes in increasing order without repetition, and looks a code up by
halving.
-/

namespace JobDesk

structure WaitingSet where
  codes : Array Int16
  increasing : codes.toList.Pairwise (· < ·) := by decide

namespace WaitingSet

/-! ## 1. Building -/

def place (code : Int16) : List Int16 → List Int16
  | [] => [code]
  | c :: rest =>
    if code < c then code :: c :: rest
    else if c < code then c :: place code rest
    else c :: rest

theorem mem_place {code c : Int16} {codes : List Int16} :
    c ∈ place code codes ↔ c = code ∨ c ∈ codes := by
  induction codes with
  | nil => simp [place]
  | cons d rest ih =>
    unfold place
    split
    · simp
    split
    · simp only [List.mem_cons, ih]
      constructor <;> (rintro (h | h | h) <;> simp [h])
    · rename_i low high
      have : code = d := Int16.le_antisymm (Int16.not_lt.mp high) (Int16.not_lt.mp low)
      simp [this]

theorem pairwise_place {code : Int16} {codes : List Int16} (h : codes.Pairwise (· < ·)) :
    (place code codes).Pairwise (· < ·) := by
  induction codes with
  | nil => simp [place]
  | cons d rest ih =>
    have tail := List.pairwise_cons.mp h
    unfold place
    split
    · rename_i low
      refine List.pairwise_cons.mpr ⟨fun c hc => ?_, h⟩
      rcases List.mem_cons.mp hc with rfl | hc
      · exact low
      · exact Int16.lt_trans low (tail.1 c hc)
    split
    · rename_i high
      refine List.pairwise_cons.mpr ⟨fun c hc => ?_, ih tail.2⟩
      rcases mem_place.mp hc with rfl | hc
      · exact high
      · exact tail.1 c hc
    · exact h

def sorted (codes : List Int16) : List Int16 :=
  codes.foldr place []

theorem pairwise_sorted (codes : List Int16) : (sorted codes).Pairwise (· < ·) := by
  induction codes with
  | nil => simp [sorted]
  | cons c rest ih => exact pairwise_place ih

theorem mem_sorted {c : Int16} {codes : List Int16} : c ∈ sorted codes ↔ c ∈ codes := by
  induction codes with
  | nil => simp [sorted]
  | cons d rest ih =>
    show c ∈ place d (sorted rest) ↔ _
    rw [mem_place, ih, List.mem_cons]

def ofCodes (codes : List Int16) : WaitingSet where
  codes := (sorted codes).toArray
  increasing := pairwise_sorted codes

def ofStatuses (statuses : List Status) : WaitingSet :=
  ofCodes (statuses.map Status.code)

def standard : WaitingSet :=
  ofStatuses (Status.all.filter Status.isWaiting)

/-! ## 2. Looking up -/

/-- Whether a code stands among those from number `low` up to, but without, `high`; the middle one
tells in which half to go on. -/
def search (codes : Array Int16) (code : Int16) (low high : Nat) : Bool :=
  if h : low < high ∧ high ≤ codes.size then
    let middle := (low + high) / 2
    have : middle < codes.size := by omega
    if codes[middle] < code then search codes code (middle + 1) high
    else if code < codes[middle] then search codes code low middle
    else true
  else false
termination_by high - low
decreasing_by all_goals omega

def contains (set : WaitingSet) (code : Int16) : Bool :=
  search set.codes code 0 set.codes.size

instance : BEq WaitingSet := ⟨fun a b => a.codes == b.codes⟩

instance : Inhabited WaitingSet := ⟨standard⟩

end WaitingSet

end JobDesk
