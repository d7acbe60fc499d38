/-!
# Media types — what a body is said to be

A media type is a type, a slash, a subtype that may end with a plus sign and a suffix, and
parameters.  Upper and lower case are the same in it.
-/

namespace JobDesk.Http

structure MediaType where
  type : String
  subtype : String
  suffix : Option String
  deriving DecidableEq, Inhabited

namespace MediaType

/-! ## 1. Characters -/

def isToken (c : Char) : Bool :=
  c.isAlphanum || "!#$%&\x27*+-.^_`|~".toList.contains c

def isQuotable (c : Char) : Bool := ' ' ≤ c && c ≤ '~'

/-! ## 2. Parameters -/

/-- Where the reader of parameters is; `isEmpty` says that nothing has been read there. -/
inductive Place where
  | name (isEmpty : Bool)
  | value (isEmpty : Bool)
  | quoted (isEmpty : Bool)
  /-- Behind a quoted value. -/
  | behind
  deriving DecidableEq

/-- The place after one more character; `none` when the parameters are malformed. -/
def step : Place → Char → Option Place
  | .name isEmpty, c =>
    if isEmpty ∧ c = ' ' then some (.name true)
    else if isToken c then some (.name false)
    else if !isEmpty ∧ c = '=' then some (.value true)
    else none
  | .value isEmpty, c =>
    if isEmpty ∧ c = '"' then some (.quoted true)
    else if isToken c then some (.value false)
    else if !isEmpty ∧ c = ';' then some (.name true)
    else none
  | .quoted isEmpty, c =>
    if !isEmpty ∧ c = '"' then some .behind
    else if isQuotable c then some (.quoted false)
    else none
  | .behind, c =>
    if c = ';' then some (.name true) else if c = ' ' then some .behind else none

def mayEnd : Place → Bool
  | .name isEmpty => isEmpty
  | .value _ => true
  | .quoted _ => false
  | .behind => true

def areParameters (text : List Char) : Bool :=
  (text.foldlM step (.name true)).any mayEnd

/-! ## 3. Types -/

/-- A subtype and the suffix behind its last plus sign, unless that is its first character. -/
def splitSuffix (subtype : List Char) : List Char × Option (List Char) :=
  match (subtype.drop 1).reverse.span (· != '+') with
  | (_, []) => (subtype, none)
  | (suffix, _ :: _) => (subtype.take (subtype.length - suffix.length - 1), some suffix.reverse)

def lower (text : List Char) : String := String.ofList (text.map Char.toLower)

def read? (text : String) : Option MediaType :=
  let (type, rest) := text.toList.span isToken
  match rest with
  | '/' :: rest =>
    let (subtype, rest) := rest.span isToken
    let (main, suffix) := splitSuffix subtype
    let isWhole :=
      match rest with
      | [] => true
      | ';' :: parameters => !subtype.isEmpty && areParameters parameters
      | _ => false
    if !type.isEmpty && isWhole then some ⟨lower type, lower main, suffix.map lower⟩ else none
  | _ => none

def isJson (m : MediaType) : Bool := m.subtype == "json" || m.suffix == some "json"

end MediaType

end JobDesk.Http
