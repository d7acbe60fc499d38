import JobDesk.Client.Args

/-!
# Command lines — how the arguments of the client are read

Every list of arguments is written in one way as a line: parts one after the other, each an option
with the argument behind it or a config by itself, and at the end perhaps an option with nothing
behind it.  `Args.read` refuses a line for the fault that stands leftmost in it.  A line without a
fault says where its config comes from, and nothing else is read.
-/

namespace JobDesk.Client

/-! ## 1. Lines -/

inductive Flag where
  | server
  | file
  | shortFile
  deriving DecidableEq

inductive Use where
  | server
  | path
  | config
  deriving DecidableEq

namespace Flag

def word : Flag → String
  | server => "--server"
  | file => "--file"
  | shortFile => "-f"

def use : Flag → Use
  | server => .server
  | file | shortFile => .path

def fault : Flag → ArgsFault
  | server => .noServer
  | file | shortFile => .noPath

end Flag

/-- A part of a line: an option with the argument behind it, whatever that is, or an argument that
is no option. -/
inductive Part where
  | valued (flag : Flag) (value : String)
  | plain (text : String) (isPlain : ∀ flag : Flag, text ≠ flag.word)

namespace Part

def words : Part → List String
  | valued flag value => [flag.word, value]
  | plain text _ => [text]

def use : Part → Use
  | valued flag _ => flag.use
  | plain _ _ => .config

def value : Part → String
  | valued _ value => value
  | plain text _ => text

end Part

def valuesOf (use : Use) (parts : List Part) : List String :=
  (parts.filter (·.use = use)).map Part.value

def width (parts : List Part) : Nat := (parts.flatMap Part.words).length

/-- A line: its parts, and the option at its end with nothing behind it, if there is one. -/
structure Line where
  parts : List Part
  hanging : Option Flag := none

namespace Line

def words (line : Line) : List String :=
  line.parts.flatMap Part.words ++ line.hanging.toList.map Flag.word

/-- A fault of a line at the place of an argument.  What is wrong with the line as a whole stands
behind its last argument. -/
inductive FaultAt (line : Line) : Nat → ArgsFault → Prop
  | hanging {flag : Flag} (h : line.hanging = some flag) :
      FaultAt line (width line.parts) flag.fault
  | repeated {before after : List Part} {text : String} {isPlain : ∀ flag : Flag, text ≠ flag.word}
      (h : line.parts = before ++ .plain text isPlain :: after)
      (hgiven : valuesOf .config before ≠ []) : FaultAt line (width before) (.unexpected text)
  | twoSources (hconfig : valuesOf .config line.parts ≠ [])
      (hpath : valuesOf .path line.parts ≠ []) :
      FaultAt line line.words.length .twoSources
  | noConfig (hconfig : valuesOf .config line.parts = []) (hpath : valuesOf .path line.parts = []) :
      FaultAt line line.words.length .noConfig

def Leftmost (line : Line) (fault : ArgsFault) : Prop :=
  ∃ place, line.FaultAt place fault ∧
    ∀ other reason, line.FaultAt other reason → (other, reason) = (place, fault) ∨ place < other

def server? (line : Line) : Option String := (valuesOf .server line.parts).getLast?

end Line

inductive Source where
  | given (text : String)
  | file (path : String)

/-- The text of a source; `readText?` gives the text of a file. -/
def Source.read (readText? : String → Option String) : Source → Except ArgsFault String
  | given text => .ok text
  | file path =>
    match readText? path with
    | some text => .ok text
    | none => .error (.unreadable path)

/-- A line without a fault draws its config from one argument, or from the file that it names last.
-/
inductive Line.Draws (line : Line) : Source → Prop
  | given {text : String} (hwhole : line.hanging = none)
      (hconfig : valuesOf .config line.parts = [text])
      (hpath : valuesOf .path line.parts = []) : Draws line (.given text)
  | file {path : String} (hwhole : line.hanging = none) (hconfig : valuesOf .config line.parts = [])
      (hpath : (valuesOf .path line.parts).getLast? = some path) : Draws line (.file path)

def ArgsFault.isOfArguments : ArgsFault → Bool
  | noServer | noPath | unexpected _ | twoSources | noConfig => true
  | unreadable _ | notJson | notObject => false

/-! ## 2. Every list of arguments is one line -/

theorem Flag.word_injective {flag other : Flag} (h : flag.word = other.word) : flag = other := by
  revert h
  cases flag <;> cases other <;> decide

namespace Line

theorem exists_words (arguments : List String) : ∃ line : Line, line.words = arguments := by
  -- An option takes two arguments at once, so the induction is on their number.
  induction hn : arguments.length using Nat.strongRecOn generalizing arguments with
  | ind n ih =>
    cases arguments with
    | nil => exact ⟨⟨[], none⟩, rfl⟩
    | cons word rest =>
      subst hn
      by_cases hflag : ∃ flag : Flag, word = flag.word
      · obtain ⟨flag, rfl⟩ := hflag
        cases rest with
        | nil => exact ⟨⟨[], some flag⟩, rfl⟩
        | cons value rest =>
          have hless : rest.length < (flag.word :: value :: rest).length := by
            rw [List.length_cons, List.length_cons]
            omega
          obtain ⟨line, rfl⟩ := ih rest.length hless rest rfl
          exact ⟨⟨.valued flag value :: line.parts, line.hanging⟩, rfl⟩
      · obtain ⟨line, rfl⟩ := ih rest.length (by simp) rest rfl
        exact ⟨⟨.plain word (not_exists.mp hflag) :: line.parts, line.hanging⟩, rfl⟩

theorem words_cons (part : Part) (parts : List Part) (hanging : Option Flag) :
    words ⟨part :: parts, hanging⟩ = part.words ++ words ⟨parts, hanging⟩ := by
  simp only [words, List.flatMap_cons, List.append_assoc]

theorem words_hanging_ne (hanging other : Option Flag) (part : Part) (parts : List Part) :
    words ⟨[], hanging⟩ ≠ words ⟨part :: parts, other⟩ := by
  rw [words_cons]
  intro h
  cases hanging with
  | none => cases part <;> cases h
  | some flag =>
    cases part with
    | valued first value => cases (List.cons.inj h).2
    | plain text isPlain => exact isPlain flag (List.cons.inj h).1.symm

theorem words_injective {line other : Line} (h : line.words = other.words) : line = other := by
  obtain ⟨parts, hanging⟩ := line
  obtain ⟨others, ending⟩ := other
  induction parts generalizing others with
  | nil =>
    cases others with
    | nil =>
      have hsame : hanging.toList.map Flag.word = ending.toList.map Flag.word := h
      cases hanging <;> cases ending <;> simp at hsame ⊢
      exact Flag.word_injective hsame
    | cons part rest => exact absurd h (words_hanging_ne hanging ending part rest)
  | cons part rest ih =>
    cases others with
    | nil => exact absurd h.symm (words_hanging_ne ending hanging part rest)
    | cons first more =>
      rw [words_cons, words_cons] at h
      -- A plain part is never the word of a flag, so that the first word tells the two kinds apart.
      cases part with
      | valued flag value =>
        cases first with
        | valued flag' value' =>
          obtain ⟨hflag, htail⟩ := List.cons.inj h
          obtain ⟨rfl, hrest⟩ := List.cons.inj htail
          obtain rfl := Flag.word_injective hflag
          have hline := ih more hrest
          simp only [mk.injEq] at hline ⊢
          exact ⟨congrArg _ hline.1, hline.2⟩
        | plain text isPlain => exact absurd (List.cons.inj h).1.symm (isPlain flag)
      | plain text isPlain =>
        cases first with
        | valued flag value => exact absurd (List.cons.inj h).1 (isPlain flag)
        | plain text' _ =>
          obtain ⟨rfl, hrest⟩ := List.cons.inj h
          have hline := ih more hrest
          simp only [mk.injEq] at hline ⊢
          exact ⟨congrArg _ hline.1, hline.2⟩

end Line

/-! ## 3. Reading parts -/

def Given.take (given : Given) : Part → Given
  | .valued .server value => { given with server := some value }
  | .valued .file value | .valued .shortFile value => { given with path := some value }
  | .plain text _ => { given with config := some text }

variable {given : Given} {parts before after : List Part} {text : String} {flag : Flag}
variable {isPlain : ∀ flag : Flag, text ≠ flag.word}

theorem scan_flag (given : Given) (flag : Flag) : given.scan [flag.word] = .error flag.fault := by
  cases flag <;> rfl

theorem scan_valued (given : Given) (flag : Flag) (value : String) (rest : List String) :
    given.scan (flag.word :: value :: rest) = (given.take (.valued flag value)).scan rest := by
  cases flag <;> (rw [Given.scan]; rfl)

theorem scan_plain (isPlain : ∀ flag : Flag, text ≠ flag.word) (given : Given)
    (rest : List String) :
    given.scan (text :: rest) =
      if given.config.isSome then .error (.unexpected text)
      else (given.take (.plain text isPlain)).scan rest := by
  have hserver : ¬ text = "--server" := isPlain .server
  have hfile : ¬ (text = "-f" ∨ text = "--file") := by
    rintro (heq | heq)
    · exact isPlain .shortFile heq
    · exact isPlain .file heq
  rw [Given.scan.eq_def]
  simp only
  rw [if_neg hserver, if_neg hfile]
  rfl

theorem valuesOf_cons (use : Use) (part : Part) (parts : List Part) :
    valuesOf use (part :: parts) =
      if part.use = use then part.value :: valuesOf use parts else valuesOf use parts := by
  by_cases huse : part.use = use <;> simp [valuesOf, huse]

theorem valuesOf_plain (isPlain : ∀ flag : Flag, text ≠ flag.word) (parts : List Part) :
    valuesOf .config (.plain text isPlain :: parts) = text :: valuesOf .config parts :=
  (valuesOf_cons _ _ _).trans (if_pos rfl)

theorem valuesOf_valued (flag : Flag) (value : String) (parts : List Part) :
    valuesOf .config (.valued flag value :: parts) = valuesOf .config parts :=
  (valuesOf_cons _ _ _).trans (if_neg (by cases flag <;> exact nofun))

theorem valuesOf_append (use : Use) (parts others : List Part) :
    valuesOf use (parts ++ others) = valuesOf use parts ++ valuesOf use others := by
  rw [valuesOf, List.filter_append, List.map_append, valuesOf, valuesOf]

def Given.configs (given : Given) (parts : List Part) : List String :=
  given.config.toList ++ valuesOf .config parts

theorem scan_parts (h : (given.configs parts).length ≤ 1) (rest : List String) :
    given.scan (parts.flatMap Part.words ++ rest) = (parts.foldl Given.take given).scan rest := by
  induction parts generalizing given with
  | nil => rfl
  | cons part parts ih =>
    rw [List.flatMap_cons, List.append_assoc, List.foldl_cons]
    cases part with
    | valued flag value =>
      have hkept : (given.take (.valued flag value)).configs parts = given.configs parts := by
        cases flag <;> rfl
      rw [Given.configs, valuesOf_valued] at h
      exact (scan_valued given flag value _).trans (ih (hkept ▸ h))
    | plain text isPlain =>
      rw [Given.configs, valuesOf_plain] at h
      have hnone : given.config = none := by
        cases hconfig : given.config with
        | none => rfl
        | some config => simp [hconfig] at h
      have hnext : ((given.take (.plain text isPlain)).configs parts).length ≤ 1 := by
        rw [hnone] at h
        exact h
      rw [← ih hnext]
      refine (scan_plain isPlain given _).trans ?_
      rw [hnone]
      rfl

theorem foldl_take (parts : List Part) (given : Given) :
    parts.foldl Given.take given =
      ⟨(valuesOf .server parts).getLast?.or given.server,
        (valuesOf .path parts).getLast?.or given.path,
        (valuesOf .config parts).getLast?.or given.config⟩ := by
  have hlast : ∀ (first : String) (rest : List String) (value : Option String),
      (first :: rest).getLast?.or value = rest.getLast?.or (some first) := by
    intro first rest value
    rw [List.getLast?_cons]
    cases rest.getLast? <;> rfl
  induction parts generalizing given with
  | nil => rfl
  | cons part parts ih =>
    rw [List.foldl_cons, ih]
    simp only [valuesOf_cons]
    cases part with
    | valued flag value => cases flag <;> simp [Part.use, Flag.use, Part.value, Given.take, hlast]
    | plain text isPlain => simp [Part.use, Part.value, Given.take, hlast]

theorem scan_repeated (h : (valuesOf .config before).length = 1)
    (isPlain : ∀ flag : Flag, text ≠ flag.word) (rest : List String) :
    Given.scan {} (before.flatMap Part.words ++ text :: rest) = .error (.unexpected text) := by
  have hread : (before.foldl Given.take {}).config.isSome = true := by
    rw [foldl_take, Option.isSome_or, List.getLast?_isSome.mpr (List.ne_nil_of_length_eq_add_one h)]
    rfl
  have hone : (Given.configs {} before).length ≤ 1 := Nat.le_of_eq h
  rw [scan_parts hone, scan_plain isPlain, if_pos hread]

/-! ## 4. Places -/

theorem width_append (parts others : List Part) :
    width (parts ++ others) = width parts + width others := by
  rw [width, List.flatMap_append, List.length_append, width, width]

theorem width_cons_pos (part : Part) (parts : List Part) : 0 < width (part :: parts) := by
  rw [width, List.flatMap_cons, List.length_append]
  have hpart : 0 < part.words.length := by cases part <;> exact Nat.succ_pos _
  omega

/-- Of two parts of a list one stands before the other, unless they are the same. -/
theorem parts_compared {others : List Part} {part other : Part} {rest more : List Part}
    (h : parts ++ part :: rest = others ++ other :: more) :
    (parts = others ∧ part = other) ∨ (∃ between, others = parts ++ part :: between) ∨
      ∃ between, parts = others ++ other :: between := by
  rcases List.append_eq_append_iff.mp h with ⟨between, rfl, hrest⟩ | ⟨between, rfl, hrest⟩
  · cases between with
    | nil => exact .inl ⟨(List.append_nil _).symm, (List.cons.inj hrest).1⟩
    | cons first between =>
      obtain ⟨rfl, -⟩ := List.cons.inj hrest
      exact .inr (.inl ⟨between, rfl⟩)
  · cases between with
    | nil => exact .inl ⟨List.append_nil _, (List.cons.inj hrest).1.symm⟩
    | cons first between =>
      obtain ⟨rfl, -⟩ := List.cons.inj hrest
      exact .inr (.inr ⟨between, rfl⟩)

theorem exists_config {n : Nat} (h : n < (valuesOf .config parts).length) :
    ∃ before text after, ∃ isPlain : ∀ flag : Flag, text ≠ flag.word,
      parts = before ++ .plain text isPlain :: after ∧ (valuesOf .config before).length = n := by
  induction parts generalizing n with
  | nil => cases h
  | cons part parts ih =>
    cases part with
    | valued flag value =>
      rw [valuesOf_valued] at h
      obtain ⟨before, text, after, isPlain, rfl, hn⟩ := ih h
      refine ⟨.valued flag value :: before, text, after, isPlain, rfl, ?_⟩
      rw [valuesOf_valued, hn]
    | plain text isPlain =>
      rw [valuesOf_plain] at h
      cases n with
      | zero => exact ⟨[], text, parts, isPlain, rfl, rfl⟩
      | succ n =>
        obtain ⟨before, other, after, hplain, rfl, hn⟩ := ih (Nat.lt_of_succ_lt_succ h)
        refine ⟨.plain text isPlain :: before, other, after, hplain, rfl, ?_⟩
        rw [valuesOf_plain, List.length_cons, hn]

namespace Line

variable {line : Line} {source : Source}

theorem length_words (line : Line) :
    line.words.length = width line.parts + line.hanging.toList.length := by
  rw [words, List.length_append, List.length_map, width]

/-- The part with a second config, if there is one, stands left of every other fault. -/
theorem leftmost_repeated (h : line.parts = before ++ .plain text isPlain :: after)
    (hone : (valuesOf .config before).length = 1) : line.Leftmost (.unexpected text) := by
  have hwidth : width before < width line.parts := by
    rw [h, width_append]
    exact Nat.lt_add_of_pos_right (width_cons_pos _ _)
  have hend : width before < line.words.length := by
    rw [length_words]
    omega
  refine ⟨width before, .repeated h (List.ne_nil_of_length_eq_add_one hone), ?_⟩
  intro place reason hfault
  cases hfault with
  | hanging => exact .inr hwidth
  | twoSources => exact .inr hend
  | noConfig => exact .inr hend
  | repeated hother hgiven =>
    rename_i earlier rest other hplain
    rcases parts_compared (h.symm.trans hother) with ⟨rfl, heq⟩ | ⟨between, rfl⟩ | ⟨between, rfl⟩
    · obtain rfl := (Part.plain.inj heq)
      exact .inl rfl
    · rw [width_append]
      exact .inr (Nat.lt_add_of_pos_right (width_cons_pos _ _))
    -- Left of the second config there is one only, and it is not behind another.
    · have htwo : (valuesOf .config (.plain other hplain :: between)).length ≠ 0 := by
        rw [valuesOf_plain]
        exact Nat.succ_ne_zero _
      have hearlier := List.length_pos_iff.mpr hgiven
      rw [valuesOf_append, List.length_append] at hone
      omega

theorem not_repeated (hone : (valuesOf .config line.parts).length ≤ 1)
    (h : line.parts = before ++ .plain text isPlain :: after) : valuesOf .config before = [] := by
  rw [h, valuesOf_append, valuesOf_plain, List.length_append, List.length_cons] at hone
  exact List.eq_nil_of_length_eq_zero (by omega)

theorem leftmost_hanging (hone : (valuesOf .config line.parts).length ≤ 1)
    (h : line.hanging = some flag) : line.Leftmost flag.fault := by
  have hend : width line.parts < line.words.length := by
    rw [length_words, h]
    exact Nat.lt_succ_self _
  refine ⟨width line.parts, .hanging h, ?_⟩
  intro place reason hfault
  cases hfault with
  | hanging hother =>
    obtain rfl := Option.some.inj (h.symm.trans hother)
    exact .inl rfl
  | twoSources => exact .inr hend
  | noConfig => exact .inr hend
  | repeated hparts hgiven => exact absurd (not_repeated hone hparts) hgiven

/-- A line that is whole and repeats no config has a fault at its end only. -/
theorem place_of_whole (hone : (valuesOf .config line.parts).length ≤ 1)
    (hwhole : line.hanging = none) {place : Nat} {fault : ArgsFault}
    (h : line.FaultAt place fault) :
    place = line.words.length ∧
      ((fault = .twoSources ∧ valuesOf .config line.parts ≠ [] ∧ valuesOf .path line.parts ≠ []) ∨
        (fault = .noConfig ∧ valuesOf .config line.parts = [] ∧
          valuesOf .path line.parts = [])) := by
  cases h with
  | hanging hother =>
    rw [hwhole] at hother
    cases hother
  | repeated hparts hgiven => exact absurd (not_repeated hone hparts) hgiven
  | twoSources hconfig hpath => exact ⟨rfl, .inl ⟨rfl, hconfig, hpath⟩⟩
  | noConfig hconfig hpath => exact ⟨rfl, .inr ⟨rfl, hconfig, hpath⟩⟩

theorem leftmost_whole (hone : (valuesOf .config line.parts).length ≤ 1)
    (hwhole : line.hanging = none) {place : Nat} {fault : ArgsFault}
    (h : line.FaultAt place fault) : line.Leftmost fault := by
  refine ⟨place, h, fun other reason hother => .inl ?_⟩
  obtain ⟨rfl, hcase⟩ := place_of_whole hone hwhole h
  obtain ⟨rfl, hsame⟩ := place_of_whole hone hwhole hother
  -- There are too many sources or none, and not both.
  rcases hcase with ⟨rfl, hconfig, -⟩ | ⟨rfl, hconfig, -⟩
  · rcases hsame with ⟨rfl, -⟩ | ⟨-, hnone, -⟩
    · rfl
    · exact absurd hnone hconfig
  · rcases hsame with ⟨-, hsome, -⟩ | ⟨rfl, -⟩
    · exact absurd hconfig hsome
    · rfl

theorem Draws.isWhole (h : line.Draws source) :
    line.hanging = none ∧ (valuesOf .config line.parts).length ≤ 1 := by
  cases h with
  | given hwhole hconfig => exact ⟨hwhole, by rw [hconfig]; exact Nat.le_refl 1⟩
  | file hwhole hconfig => exact ⟨hwhole, by rw [hconfig]; exact Nat.zero_le 1⟩

theorem Draws.faultless (h : line.Draws source) (place : Nat) (fault : ArgsFault) :
    ¬ line.FaultAt place fault := by
  intro hfault
  obtain ⟨-, hend⟩ := place_of_whole h.isWhole.2 h.isWhole.1 hfault
  cases h with
  | given hwhole hconfig hpath =>
    rcases hend with ⟨-, -, hboth⟩ | ⟨-, hnone, -⟩
    · exact hboth hpath
    · rw [hconfig] at hnone
      cases hnone
  | file hwhole hconfig hpath =>
    rcases hend with ⟨-, hboth, -⟩ | ⟨-, -, hnone⟩
    · exact hboth hconfig
    · rw [hnone] at hpath
      cases hpath

end Line

/-! ## 5. Reading configs -/

theorem Source.read_error {source : Source} {readText? : String → Option String}
    {fault : ArgsFault} (h : source.read readText? = .error fault) :
    fault.isOfArguments = false := by
  cases source with
  | given text => cases h
  | file path =>
    rw [Source.read] at h
    cases htext : readText? path with
    | some text =>
      rw [htext] at h
      cases h
    | none =>
      rw [htext] at h
      rw [← Except.error.inj h]
      rfl

theorem readConfig_error {text : String} {fault : ArgsFault} (h : readConfig text = .error fault) :
    fault.isOfArguments = false := by
  unfold readConfig at h
  split at h
  · cases h
  · rw [← Except.error.inj h]
    rfl
  · rw [← Except.error.inj h]
    rfl

theorem readConfig_eq_ok_iff {text : String} {config : Json} :
    readConfig text = .ok config ↔
      ∃ members, Json.read? text = some (.object members) ∧ config = .object members := by
  unfold readConfig
  split
  · rename_i members hread
    rw [hread]
    constructor
    · intro h
      exact ⟨members, rfl, (Except.ok.inj h).symm⟩
    · rintro ⟨others, heq, rfl⟩
      rw [Option.some.inj heq]
  · rename_i value hobject hread
    refine iff_of_false (by simp) ?_
    rintro ⟨members, heq, -⟩
    rw [hread] at heq
    exact hobject members (Option.some.inj heq)
  · rename_i hread
    refine iff_of_false (by simp) ?_
    rintro ⟨members, heq, -⟩
    rw [hread] at heq
    cases heq

/-! ## 6. Reading lines -/

namespace Line

variable {line : Line} {source : Source}

def whole (line : Line) : Given :=
  ⟨line.server?, (valuesOf .path line.parts).getLast?, (valuesOf .config line.parts).getLast?⟩

theorem scan_words (hone : (valuesOf .config line.parts).length ≤ 1) :
    Given.scan {} line.words = line.whole.scan (line.hanging.toList.map Flag.word) := by
  have hlast : line.parts.foldl Given.take {} = line.whole := by
    rw [foldl_take, Option.or_none, Option.or_none, Option.or_none]
    rfl
  have hread : (Given.configs {} line.parts).length ≤ 1 := hone
  rw [words, scan_parts hread, hlast]

/-- Reading ends with the fault of the scan, whatever files there are. -/
theorem read_of_scan_error {arguments : List String} {fault : ArgsFault}
    (h : Given.scan {} arguments = .error fault) (readText? : String → Option String) :
    Args.read readText? arguments = .error fault := by
  rw [Args.read, h]
  rfl

theorem Draws.read (h : line.Draws source) (readText? : String → Option String) :
    Args.read readText? line.words = do
      let config ← readConfig (← source.read readText?)
      return ⟨line.server?, config⟩ := by
  obtain ⟨hwhole, hone⟩ := h.isWhole
  have hscan : Given.scan {} line.words = .ok line.whole := by
    rw [scan_words hone, hwhole]
    rfl
  have hsource : line.whole.source readText? = source.read readText? := by
    cases h with
    | given _ hconfig hpath =>
      rw [whole, hconfig, hpath]
      rfl
    | file _ hconfig hpath =>
      rw [whole, hconfig, hpath]
      rfl
  rw [Args.read, hscan, ← hsource]
  rfl

/-- A line has a fault that stands leftmost, for which it is refused, or says where its config comes
from. -/
theorem refused_or_draws (line : Line) :
    (∃ fault : ArgsFault, fault.isOfArguments = true ∧ line.Leftmost fault ∧
      ∀ readText?, Args.read readText? line.words = .error fault) ∨
    ∃ source, line.Draws source := by
  -- A second config is refused while the arguments are scanned, a hanging flag at their end, and a
  -- number of sources other than one when all have been read.
  by_cases hone : (valuesOf .config line.parts).length ≤ 1
  · cases hhanging : line.hanging with
    | some flag =>
      have hscan : Given.scan {} line.words = .error flag.fault := by
        rw [scan_words hone, hhanging]
        exact scan_flag line.whole flag
      exact .inl ⟨flag.fault, by cases flag <;> rfl, leftmost_hanging hone hhanging,
        read_of_scan_error hscan⟩
    | none =>
      have hscan : Given.scan {} line.words = .ok line.whole := by
        rw [scan_words hone, hhanging]
        rfl
      have hread : ∀ readText?, Args.read readText? line.words = do
          let config ← readConfig (← line.whole.source readText?)
          return ⟨line.server?, config⟩ := by
        intro readText?
        rw [Args.read, hscan]
        rfl
      cases hconfig : valuesOf .config line.parts with
      | nil =>
        cases hpath : (valuesOf .path line.parts).getLast? with
        | none =>
          have hnone := List.getLast?_eq_none_iff.mp hpath
          refine .inl ⟨.noConfig, rfl, leftmost_whole hone hhanging (.noConfig hconfig hnone), ?_⟩
          intro readText?
          rw [hread, whole, hconfig, hpath]
          rfl
        | some path => exact .inr ⟨.file path, .file hhanging hconfig hpath⟩
      | cons text more =>
        have hmore : more = [] := by
          rw [hconfig, List.length_cons] at hone
          exact List.eq_nil_of_length_eq_zero (by omega)
        rw [hmore] at hconfig
        cases hpath : valuesOf .path line.parts with
        | nil => exact .inr ⟨.given text, .given hhanging hconfig hpath⟩
        | cons path paths =>
          have hsome : valuesOf .config line.parts ≠ [] := by
            rw [hconfig]
            exact List.cons_ne_nil _ _
          have hpaths : valuesOf .path line.parts ≠ [] := by
            rw [hpath]
            exact List.cons_ne_nil _ _
          refine .inl
            ⟨.twoSources, rfl, leftmost_whole hone hhanging (.twoSources hsome hpaths), ?_⟩
          intro readText?
          rw [hread, whole, hconfig, hpath, List.getLast?_cons]
          rfl
  · obtain ⟨before, text, after, isPlain, hparts, hbefore⟩ := exists_config (Nat.not_le.mp hone)
    have hscan : Given.scan {} line.words = .error (.unexpected text) := by
      rw [words, hparts, List.flatMap_append, List.append_assoc]
      exact scan_repeated hbefore isPlain _
    exact .inl ⟨.unexpected text, rfl, leftmost_repeated hparts hbefore, read_of_scan_error hscan⟩

theorem Leftmost.eq {fault other : ArgsFault} (h : line.Leftmost fault)
    (hother : line.Leftmost other) : fault = other := by
  obtain ⟨place, hfault, hfirst⟩ := h
  obtain ⟨next, hnext, hleft⟩ := hother
  rcases hfirst next other hnext with heq | hlt
  · exact (Prod.mk.inj heq).2.symm
  · rcases hleft place fault hfault with heq | hgt
    · exact (Prod.mk.inj heq).2
    · exact absurd hlt (Nat.lt_asymm hgt)

theorem Draws.read_error (h : line.Draws source) {readText? : String → Option String}
    {fault : ArgsFault} (hread : Args.read readText? line.words = .error fault) :
    fault.isOfArguments = false := by
  rw [h.read] at hread
  cases htext : source.read readText? with
  | error reason =>
    rw [htext] at hread
    obtain rfl := Except.error.inj hread
    exact Source.read_error htext
  | ok text =>
    rw [htext] at hread
    cases hconfig : readConfig text with
    | error reason =>
      simp only [hconfig, bind, Except.bind] at hread
      obtain rfl := Except.error.inj hread
      exact readConfig_error hconfig
    | ok config =>
      simp only [hconfig, bind, Except.bind] at hread
      cases hread

theorem Draws.read_eq_ok_iff (h : line.Draws source) {readText? : String → Option String}
    {args : Args} :
    Args.read readText? line.words = .ok args ↔
      ∃ text members, source.read readText? = .ok text ∧
        Json.read? text = some (.object members) ∧ args = ⟨line.server?, .object members⟩ := by
  rw [h.read]
  constructor
  · intro hread
    cases htext : source.read readText? with
    | error reason =>
      rw [htext] at hread
      cases hread
    | ok text =>
      rw [htext] at hread
      cases hconfig : readConfig text with
      | error reason =>
        simp only [hconfig, bind, Except.bind] at hread
        cases hread
      | ok config =>
        simp only [hconfig, bind, Except.bind] at hread
        obtain ⟨members, hmembers, rfl⟩ := readConfig_eq_ok_iff.mp hconfig
        exact ⟨text, members, rfl, hmembers, (Except.ok.inj hread).symm⟩
  · rintro ⟨text, members, htext, hmembers, rfl⟩
    rw [htext]
    have hconfig := readConfig_eq_ok_iff.mpr ⟨members, hmembers, rfl⟩
    simp only [hconfig, bind, Except.bind]
    rfl

/-! ## 7. Exchanging parts -/

theorem valuesOf_exchange (before after : List Part) {part other : Part} (h : part.use ≠ other.use)
    (use : Use) :
    valuesOf use (before ++ other :: part :: after) =
      valuesOf use (before ++ part :: other :: after) := by
  rw [valuesOf_append, valuesOf_append]
  congr 1
  simp only [valuesOf_cons]
  -- At most one of the two is there for this use.
  by_cases hpart : part.use = use
  · have hother : ¬ other.use = use := fun heq => h (hpart.trans heq.symm)
    simp only [if_pos hpart, if_neg hother]
  · simp only [if_neg hpart]

theorem Draws.exchange {part other : Part} (h : line.Draws source)
    (hparts : line.parts = before ++ part :: other :: after) (huse : part.use ≠ other.use) :
    Draws ⟨before ++ other :: part :: after, none⟩ source ∧
      server? ⟨before ++ other :: part :: after, none⟩ = line.server? := by
  have hvalues : ∀ use, valuesOf use (before ++ other :: part :: after) =
      valuesOf use line.parts := by
    intro use
    rw [hparts]
    exact valuesOf_exchange before after huse use
  refine ⟨?_, by rw [server?, hvalues, server?]⟩
  cases h with
  | given _ hconfig hpath => exact .given rfl ((hvalues _).trans hconfig) ((hvalues _).trans hpath)
  | file _ hconfig hpath =>
    exact .file rfl ((hvalues _).trans hconfig) ((congrArg _ (hvalues _)).trans hpath)

/-! ## 8. Results -/

theorem read_error_iff (line : Line) {readText? : String → Option String} {fault : ArgsFault}
    (hfault : fault.isOfArguments = true) :
    Args.read readText? line.words = .error fault ↔ line.Leftmost fault := by
  rcases line.refused_or_draws with ⟨reason, -, hleft, hread⟩ | ⟨source, hdraws⟩
  · rw [hread]
    constructor
    · intro h
      exact Except.error.inj h ▸ hleft
    · intro h
      rw [hleft.eq h]
  · constructor
    · intro h
      rw [hdraws.read_error h] at hfault
      cases hfault
    · rintro ⟨place, h, -⟩
      exact absurd h (hdraws.faultless place fault)

theorem faultless_iff (line : Line) :
    (∀ place fault, ¬ line.FaultAt place fault) ↔ ∃ source, line.Draws source := by
  constructor
  · intro hnone
    rcases line.refused_or_draws with ⟨reason, -, ⟨place, hplace, -⟩, -⟩ | hdraws
    · exact absurd hplace (hnone place reason)
    · exact hdraws
  · rintro ⟨source, hdraws⟩
    exact hdraws.faultless

theorem exists_read_error_iff (line : Line) (readText? : String → Option String) :
    (∃ fault : ArgsFault, fault.isOfArguments = true ∧
        Args.read readText? line.words = .error fault) ↔
      ∃ place fault, line.FaultAt place fault := by
  rcases line.refused_or_draws with ⟨reason, hreason, ⟨place, hplace, -⟩, hread⟩ | ⟨source, hdraws⟩
  · exact iff_of_true ⟨reason, hreason, hread readText?⟩ ⟨place, reason, hplace⟩
  · refine iff_of_false ?_ ?_
    · rintro ⟨fault, hfault, h⟩
      rw [hdraws.read_error h] at hfault
      cases hfault
    · rintro ⟨place, fault, h⟩
      exact hdraws.faultless place fault h

theorem read_eq_ok_iff (line : Line) (readText? : String → Option String) (args : Args) :
    Args.read readText? line.words = .ok args ↔
      ∃ source text members, line.Draws source ∧ source.read readText? = .ok text ∧
        Json.read? text = some (.object members) ∧ args = ⟨line.server?, .object members⟩ := by
  constructor
  · intro h
    rcases line.refused_or_draws with ⟨reason, -, -, hread⟩ | ⟨source, hdraws⟩
    · rw [hread] at h
      cases h
    · obtain ⟨text, members, htext, hmembers, rfl⟩ := hdraws.read_eq_ok_iff.mp h
      exact ⟨source, text, members, hdraws, htext, hmembers, rfl⟩
  · rintro ⟨source, text, members, hdraws, htext, hmembers, rfl⟩
    exact hdraws.read_eq_ok_iff.mpr ⟨text, members, htext, hmembers, rfl⟩

theorem read_congr (line : Line) {readText? other : String → Option String}
    (h : ∀ path, line.Draws (.file path) → readText? path = other path) :
    Args.read readText? line.words = Args.read other line.words := by
  rcases line.refused_or_draws with ⟨reason, -, -, hread⟩ | ⟨source, hdraws⟩
  · rw [hread, hread]
  · have hsame : source.read readText? = source.read other := by
      cases source with
      | given text => rfl
      | file path => rw [Source.read, Source.read, h path hdraws]
    rw [hdraws.read, hdraws.read, hsame]

/-- How a list of arguments is read, by the line that it is. -/
structure Explains (line : Line) (arguments : List String) : Prop where
  words : line.words = arguments
  /-- No other line is written so. -/
  unique : ∀ other : Line, other.words = arguments → other = line
  /-- The arguments are refused for a fault of theirs just if they have one, and for the leftmost.
  -/
  refused : ∀ readText?,
    (∃ fault : ArgsFault, fault.isOfArguments = true ∧
        Args.read readText? arguments = .error fault) ↔
      ∃ place fault, line.FaultAt place fault
  leftmost : ∀ readText? (fault : ArgsFault), fault.isOfArguments = true →
    (Args.read readText? arguments = .error fault ↔ line.Leftmost fault)
  /-- Without a fault there is one source, and what it holds decides. -/
  faultless : (∀ place fault, ¬ line.FaultAt place fault) ↔ ∃ source, line.Draws source
  accepted : ∀ readText? args, Args.read readText? arguments = .ok args ↔
    ∃ source text members, line.Draws source ∧ source.read readText? = .ok text ∧
      Json.read? text = some (.object members) ∧ args = ⟨line.server?, .object members⟩
  /-- No file is read but the source of a line without a fault. -/
  unread : ∀ readText? other, (∀ path, line.Draws (.file path) → readText? path = other path) →
    Args.read readText? arguments = Args.read other arguments
  /-- Neighbours for different uses can be exchanged. -/
  exchanged : ∀ readText? before after part other source,
    line.parts = before ++ part :: other :: after → part.use ≠ other.use → line.Draws source →
      Args.read readText? (Line.words ⟨before ++ other :: part :: after, none⟩) =
        Args.read readText? arguments

/-- Every list of arguments is one line, and is read as the line says: refused for its leftmost
fault, or else taken just if the text of its one source is an object. -/
theorem arguments_read_as_line (arguments : List String) :
    ∃ line : Line, line.Explains arguments := by
  obtain ⟨line, rfl⟩ := exists_words arguments
  refine ⟨line, ?_⟩
  constructor
  case words => rfl
  case unique => exact fun other h => words_injective h
  case refused => exact line.exists_read_error_iff
  case leftmost => exact fun readText? fault hfault => line.read_error_iff hfault
  case faultless => exact line.faultless_iff
  case accepted => exact line.read_eq_ok_iff
  case unread => exact fun readText? other h => line.read_congr h
  case exchanged =>
    intro readText? before after part other source hparts huse hdraws
    obtain ⟨hexchanged, hserver⟩ := hdraws.exchange hparts huse
    rw [hexchanged.read, hdraws.read, hserver]

-- An option takes whatever stands behind it, another option too.
example :
    words ⟨[.valued .server "-f", .valued .shortFile "job.json", .valued .server "u"], none⟩ =
      ["--server", "-f", "-f", "job.json", "--server", "u"] := rfl

end Line

end JobDesk.Client
