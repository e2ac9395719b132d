import Mathlib.Data.List.Basic
import RdfDataset.Entry
import RdfDataset.Proofs.Namespace

/-!
# When literals share a canonical text

The canonical text of a literal does not escape the value, so a text alone does not tell where the
value ends. `Literal.Reads` gives a literal its reading, which is what the text is meant to keep
apart. As long as language tags are free of `@` and `>`, and datatypes of `<`, the last mark of a
text is the one that was put there, and readings with a tag or a datatype have texts of their own.
A plain value may be the text of any other literal.
-/

set_option autoImplicit false

namespace RdfDataset

/-- The text that a datatype stands for. -/
inductive Datatype.Names (policy : DatatypePolicy) (env : Namespaces) : Datatype → String → Prop
  | absolute (text : String) : Names policy env (.absolute text) text
  | resolved (text : String) : Names policy env (.resolved text) text
  | declared {label suffix space : String} (known : env.resolve? label = some space) :
      Names policy env (.prefixed label suffix) (space ++ suffix)
  | lenient {label suffix : String} (unknown : env.resolve? label = none)
      (lenient : policy = .lenient) : Names policy env (.prefixed label suffix) suffix

namespace Literal

inductive Reading where
  | plain (value : String)
  | tagged (value language : String)
  | typed (value datatype : String)
deriving DecidableEq

namespace Reading

def IsPlain : Reading → Prop
  | plain _ => True
  | _ => False

/-- The text of a reading, with the value as it is. -/
def text : Reading → String
  | plain value => value
  | tagged value language => value ++ "@" ++ language
  | typed value datatype => "\"" ++ value ++ "\"^^<" ++ datatype ++ ">"

/-- Tag and datatype are free of the marks that tell them from the value. -/
def Clear : Reading → Prop
  | plain _ => True
  | tagged _ language => '@' ∉ language.toList ∧ '>' ∉ language.toList
  | typed _ datatype => '<' ∉ datatype.toList

end Reading

/-- The reading of a literal. A datatype hides the language tag; where tags are taken from the value
itself, a literal without datatype is tagged with its value. -/
inductive Reads (options : LiteralOptions) (env : Namespaces) : Literal → Reading → Prop
  | typed {value text : String} {language : Option String} {datatype : Datatype}
      (names : datatype.Names options.datatypePolicy env text) :
      Reads options env ⟨value, language, some datatype⟩ (.typed value text)
  | tagged {value language : String} (source : options.languageSource = .language) :
      Reads options env ⟨value, some language, none⟩ (.tagged value language)
  | plain {value : String} (source : options.languageSource = .language) :
      Reads options env ⟨value, none, none⟩ (.plain value)
  | doubled {value : String} {language : Option String}
      (source : options.languageSource = .lexicalValue) :
      Reads options env ⟨value, language, none⟩ (.tagged value value)

/-! ## Canonical texts are texts of readings -/

section Canonical

variable {options : LiteralOptions} {env : Namespaces} {literal : Literal}

theorem datatypeSpace_names {policy : DatatypePolicy} {label suffix space : String}
    (found : datatypeSpace policy env label = .ok space) :
    Datatype.Names policy env (.prefixed label suffix) (space ++ suffix) := by
  unfold datatypeSpace at found
  split at found
  · next known =>
      cases found
      exact .declared known
  · cases found
  · next unknown =>
      cases found
      rw [String.empty_append]
      exact .lenient unknown rfl

theorem Reads.canonical {reading : Reading} (reads : literal.Reads options env reading) :
    literal.canonical options env = .ok reading.text := by
  cases reads with
  | typed names =>
      cases names with
      | absolute _ => rfl
      | resolved _ => rfl
      | declared known =>
          simp [Literal.canonical, datatypeSpace, known, Except.map, Reading.text, typedText]
      | lenient unknown lenient =>
          simp [Literal.canonical, datatypeSpace, unknown, lenient, Except.map, Reading.text,
            typedText]
  | tagged source => simp [Literal.canonical, storedLanguage, source, Reading.text, taggedText]
  | plain source => simp [Literal.canonical, storedLanguage, source, Reading.text]
  | doubled source => simp [Literal.canonical, storedLanguage, source, Reading.text, taggedText]

theorem exists_reads {text : String} (canonical : literal.canonical options env = .ok text) :
    ∃ reading, literal.Reads options env reading := by
  obtain ⟨value, language, datatype⟩ := literal
  cases datatype with
  | none =>
      cases source : options.languageSource with
      | lexicalValue => exact ⟨_, .doubled source⟩
      | language =>
          cases language with
          | none => exact ⟨_, .plain source⟩
          | some language => exact ⟨_, .tagged source⟩
  | some datatype =>
      cases datatype with
      | absolute text => exact ⟨_, .typed (.absolute text)⟩
      | resolved text => exact ⟨_, .typed (.resolved text)⟩
      | prefixed label suffix =>
          cases found : datatypeSpace options.datatypePolicy env label with
          | error cause => simp [Literal.canonical, found, Except.map] at canonical
          | ok space => exact ⟨_, .typed (datatypeSpace_names found)⟩

theorem canonical_eq_ok_iff {text : String} : literal.canonical options env = .ok text ↔
    ∃ reading, literal.Reads options env reading ∧ reading.text = text := by
  constructor
  · intro canonical
    obtain ⟨reading, reads⟩ := exists_reads canonical
    rw [reads.canonical, Except.ok.injEq] at canonical
    exact ⟨reading, reads, canonical⟩
  · rintro ⟨reading, reads, rfl⟩
    exact reads.canonical

end Canonical

/-! ## Where the value ends -/

/-- A text is split by a mark in one way, if the mark does not come again behind it. -/
theorem split_at_last {front behind front' behind' : List Char} {mark : Char}
    (clear : mark ∉ behind) (clear' : mark ∉ behind')
    (same : front ++ mark :: behind = front' ++ mark :: behind') :
    front = front' ∧ behind = behind' := by
  rcases List.append_eq_append_iff.mp same with ⟨between, rfl, rest⟩ | ⟨between, rfl, rest⟩
  · cases between with
    | nil => simpa using rest
    | cons first more =>
        obtain ⟨rfl, rfl⟩ := List.cons.inj rest
        simp at clear
  · cases between with
    | nil => simpa using rest.symm
    | cons first more =>
        obtain ⟨rfl, rfl⟩ := List.cons.inj rest
        simp at clear'

namespace Reading

theorem tagged_toList (value language : String) :
    (tagged value language).text.toList = value.toList ++ '@' :: language.toList := by
  simp [text]

theorem typed_toList (value datatype : String) : (typed value datatype).text.toList =
    ('"' :: value.toList ++ ['"', '^', '^']) ++ '<' :: (datatype.toList ++ ['>']) := by
  simp [text]

variable {value value' language language' datatype datatype' : String}

theorem tagged_inj (clear : (tagged value language).Clear)
    (clear' : (tagged value' language').Clear)
    (same : (tagged value language).text = (tagged value' language').text) :
    tagged value language = tagged value' language' := by
  have lists := congrArg String.toList same
  rw [tagged_toList, tagged_toList] at lists
  obtain ⟨values, languages⟩ := split_at_last clear.1 clear'.1 lists
  rw [String.toList_inj.mp values, String.toList_inj.mp languages]

theorem typed_inj (clear : (typed value datatype).Clear) (clear' : (typed value' datatype').Clear)
    (same : (typed value datatype).text = (typed value' datatype').text) :
    typed value datatype = typed value' datatype' := by
  have lists := congrArg String.toList same
  rw [typed_toList, typed_toList] at lists
  have clear : '<' ∉ datatype.toList := clear
  have clear' : '<' ∉ datatype'.toList := clear'
  have free : '<' ∉ datatype.toList ++ ['>'] := by
    simp [clear]
  have free' : '<' ∉ datatype'.toList ++ ['>'] := by
    simp [clear']
  obtain ⟨values, datatypes⟩ := split_at_last free free' lists
  have values : value.toList = value'.toList := by
    simpa using values
  have datatypes : datatype.toList = datatype'.toList := by
    simpa using datatypes
  rw [String.toList_inj.mp values, String.toList_inj.mp datatypes]

/-- A datatype ends with its bracket, and a tag does not. -/
theorem tagged_ne_typed (clear : (tagged value language).Clear) :
    (tagged value language).text ≠ (typed value' datatype).text := by
  intro same
  have ending : (typed value' datatype).text.toList.getLast? = some '>' := by
    rw [typed_toList, List.getLast?_append_cons, ← List.cons_append, List.getLast?_concat]
  rw [← same, tagged_toList, List.getLast?_append_cons] at ending
  have member : '>' ∈ '@' :: language.toList := List.mem_of_getLast? ending
  rcases List.mem_cons.mp member with mark | inside
  · cases mark
  · exact clear.2 inside

theorem text_inj {reading reading' : Reading} (marked : ¬ reading.IsPlain)
    (marked' : ¬ reading'.IsPlain) (clear : reading.Clear) (clear' : reading'.Clear)
    (same : reading.text = reading'.text) : reading = reading' := by
  cases reading with
  | plain _ => exact absurd trivial marked
  | tagged value language =>
      cases reading' with
      | plain _ => exact absurd trivial marked'
      | tagged value' language' => exact tagged_inj clear clear' same
      | typed value' datatype => exact absurd same (tagged_ne_typed clear)
  | typed value datatype =>
      cases reading' with
      | plain _ => exact absurd trivial marked'
      | tagged value' language => exact absurd same.symm (tagged_ne_typed clear')
      | typed value' datatype' => exact typed_inj clear clear' same

theorem typed_head? (value datatype : String) :
    (typed value datatype).text.toList.head? = some '"' := by
  rw [typed_toList]
  rfl

/-- The text of a reading with a tag or a datatype gives itself away. -/
theorem text_marked {reading : Reading} (marked : ¬ reading.IsPlain) :
    '@' ∈ reading.text.toList ∨ reading.text.toList.head? = some '"' := by
  cases reading with
  | plain _ => exact absurd trivial marked
  | tagged value language =>
      left
      rw [tagged_toList]
      simp
  | typed value datatype => exact Or.inr (typed_head? value datatype)

/-! ### Values as tags -/

/-- A value that is its own tag is half of the text. -/
theorem doubled_inj (same : (tagged value value).text = (tagged value' value').text) :
    value = value' := by
  have lists := congrArg String.toList same
  rw [tagged_toList, tagged_toList] at lists
  have lengths := congrArg List.length lists
  rw [List.length_append, List.length_append, List.length_cons, List.length_cons] at lengths
  have halves : value.toList.length = value'.toList.length := by
    omega
  exact String.toList_inj.mp (List.append_inj lists halves).1

theorem doubled_head? (same : (tagged value value).text = (typed value' datatype).text) :
    value.toList.head? = some '"' := by
  have quote := typed_head? value' datatype
  rw [← same, tagged_toList] at quote
  cases letters : value.toList with
  | nil => simp [letters] at quote
  | cons first rest => simpa [letters] using quote

end Reading

/-! ## Shared texts -/

/-- When literals with these readings have the same canonical text. -/
structure Reading.Shared (reading reading' : Reading) (same : Prop) : Prop where
  marked : ¬ reading.IsPlain → ¬ reading'.IsPlain → (same ↔ reading = reading')
  plain : ∀ value value', reading = .plain value → reading' = .plain value' →
    (same ↔ value = value')
  mixed : ∀ value, reading = .plain value → ¬ reading'.IsPlain → (same ↔ value = reading'.text)
  apart : ∀ value, reading = .plain value → ¬ reading'.IsPlain → '@' ∉ value.toList →
    value.toList.head? ≠ some '"' → ¬ same

/-- When they have it although all tags are values. -/
structure Reading.SharedDoubled (reading reading' : Reading) (same : Prop) : Prop where
  untyped : ∀ value value', reading = .tagged value value → reading' = .tagged value' value' →
    (same ↔ value = value')
  typed : ∀ value value' datatype datatype', reading = .typed value datatype →
    reading' = .typed value' datatype' → '<' ∉ datatype.toList → '<' ∉ datatype'.toList →
    (same ↔ value = value' ∧ datatype = datatype')
  mixed : ∀ value value' datatype, reading = .tagged value value →
    reading' = .typed value' datatype →
    (same ↔ value ++ "@" ++ value = "\"" ++ value' ++ "\"^^<" ++ datatype ++ ">")
  apart : ∀ value value' datatype, reading = .tagged value value →
    reading' = .typed value' datatype → value.toList.head? ≠ some '"' → ¬ same

namespace Reading

variable {reading reading' : Reading}

theorem shared (clear : reading.Clear) (clear' : reading'.Clear) :
    reading.Shared reading' (reading.text = reading'.text) where
  marked marked marked' := ⟨text_inj marked marked' clear clear', congrArg text⟩
  plain := by
    rintro value value' rfl rfl
    exact Iff.rfl
  mixed := by
    rintro value rfl _
    exact Iff.rfl
  apart := by
    rintro value rfl marked noMark noQuote same
    have same : value = reading'.text := same
    rcases text_marked marked with mark | quote
    · exact noMark (same ▸ mark)
    · exact noQuote (same ▸ quote)

theorem sharedDoubled (reading reading' : Reading) :
    reading.SharedDoubled reading' (reading.text = reading'.text) where
  untyped := by
    rintro value value' rfl rfl
    refine ⟨doubled_inj, ?_⟩
    rintro rfl
    rfl
  typed := by
    rintro value value' datatype datatype' rfl rfl clear clear'
    constructor
    · intro same
      exact Reading.typed.inj (typed_inj clear clear' same)
    · rintro ⟨rfl, rfl⟩
      rfl
  mixed := by
    rintro value value' datatype rfl rfl
    exact Iff.rfl
  apart := by
    rintro value value' datatype rfl rfl noQuote same
    exact noQuote (doubled_head? same)

end Reading

/-- Every literal that has a canonical text has a reading, and two of them share their text if they
share their reading, or if a plain value happens to be the text of the other. Where values are taken
for tags, literals without datatype share their text exactly if they share their value, and one with
a datatype can only share it if the doubled value happens to be that text. -/
theorem canonical_shared_iff (policy : DatatypePolicy) (env : Namespaces) :
    (∀ source (literal : Literal) (text : String),
      literal.canonical ⟨source, policy⟩ env = .ok text ↔
        ∃ reading, literal.Reads ⟨source, policy⟩ env reading ∧ reading.text = text) ∧
    (∀ (literal other : Literal) (reading reading' : Reading),
      literal.Reads ⟨.language, policy⟩ env reading → other.Reads ⟨.language, policy⟩ env reading' →
      reading.Clear → reading'.Clear →
      reading.Shared reading' (literal.canonical ⟨.language, policy⟩ env =
        other.canonical ⟨.language, policy⟩ env)) ∧
    ∀ (literal other : Literal) (reading reading' : Reading),
      literal.Reads ⟨.lexicalValue, policy⟩ env reading →
      other.Reads ⟨.lexicalValue, policy⟩ env reading' →
      reading.SharedDoubled reading' (literal.canonical ⟨.lexicalValue, policy⟩ env =
        other.canonical ⟨.lexicalValue, policy⟩ env) := by
  refine ⟨fun source literal text => canonical_eq_ok_iff, ?_, ?_⟩
  · intro literal other reading reading' reads reads' clear clear'
    rw [reads.canonical, reads'.canonical, Except.ok.injEq]
    exact Reading.shared clear clear'
  · intro literal other reading reading' reads reads'
    rw [reads.canonical, reads'.canonical, Except.ok.injEq]
    exact Reading.sharedDoubled reading reading'

/-- A number whose datatype is abbreviated, with a language tag that does not count. -/
def number : Literal := ⟨"5", some "en", some (.prefixed "x" "integer")⟩

/-- A plain literal that has the canonical text of the number for its value. -/
def quotedNumber : Literal := ⟨"\"5\"^^<http://x#integer>", none, none⟩

def numberSpace : Namespaces := Namespaces.empty.declare "x" "http://x#"

theorem quotedNumber_reads : quotedNumber.Reads ⟨.language, .strict⟩ numberSpace
    (.plain "\"5\"^^<http://x#integer>") :=
  .plain rfl

theorem number_reads : number.Reads ⟨.language, .strict⟩ numberSpace
    (.typed "5" ("http://x#" ++ "integer")) :=
  .typed (.declared (by rw [numberSpace, Namespaces.resolve?_declare, if_pos rfl]))

theorem number_clear : (Reading.typed "5" ("http://x#" ++ "integer")).Clear := by
  show '<' ∉ ("http://x#" ++ "integer").toList
  decide

theorem canonical_shared_iff_quotedNumber :
    quotedNumber.Reads ⟨.language, .strict⟩ numberSpace (.plain "\"5\"^^<http://x#integer>") ∧
      number.Reads ⟨.language, .strict⟩ numberSpace (.typed "5" ("http://x#" ++ "integer")) ∧
      quotedNumber.canonical ⟨.language, .strict⟩ numberSpace =
        number.canonical ⟨.language, .strict⟩ numberSpace :=
  ⟨quotedNumber_reads, number_reads,
    (((canonical_shared_iff .strict numberSpace).2.1 quotedNumber number _ _ quotedNumber_reads
      number_reads trivial number_clear).mixed _ rfl (fun plain => plain)).mpr (by decide)⟩

/-- Where values are taken for tags, the text of a literal with a datatype can be a doubled value.
-/
example : (⟨"\"a\"^^<b>", none, none⟩ : Literal).canonical ⟨.lexicalValue, .strict⟩ .empty =
    (⟨"a\"^^<b>@\"a", none, some (.absolute "b")⟩ : Literal).canonical ⟨.lexicalValue, .strict⟩
      .empty := by
  decide

end Literal

end RdfDataset
