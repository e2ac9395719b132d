import Mathlib.Data.List.TakeWhile
import RdfDataset.Iri.Resolution

/-!
# IRIs as they are written

The parts of a reference make up its text, so that an IRI is the same relative to every base. And an
IRI contains neither a closing angle bracket nor a backslash: it can stand in angle brackets, and
nothing in it is taken for a code point.
-/

set_option autoImplicit false

namespace RdfDataset.Iri

/-! ## The parts of a text -/

theorem dropWhile_eq_cons {c d : Char} {text rest : List Char}
    (stopped : text.dropWhile (· ≠ c) = d :: rest) :
    d = c ∧ text = text.takeWhile (· ≠ c) ++ c :: rest := by
  have first := List.head?_dropWhile_not (· ≠ c) text
  rw [stopped] at first
  have same : d = c := by simpa using first
  subst same
  exact ⟨rfl, by rw [← stopped, List.takeWhile_append_dropWhile]⟩

theorem cut_join (c : Char) (text : List Char) :
    (cut c text).1 ++ ((cut c text).2.map (c :: ·)).getD [] = text := by
  unfold cut
  split
  next stopped => exact (dropWhile_eq_cons stopped).2.symm
  next => exact List.append_nil text

theorem cutScheme_join (text : List Char) :
    ((cutScheme text).1.map (· ++ [':'])).getD [] ++ (cutScheme text).2 = text := by
  unfold cutScheme
  split
  · split
    next stopped =>
        split
        · rw [Option.map_some, Option.getD_some, List.append_assoc, List.singleton_append,
            ← stopped, List.takeWhile_append_dropWhile]
        · rfl
    next => rfl
  · rfl

theorem cutAuthority_join (text : List Char) :
    ((cutAuthority text).1.map ('/' :: '/' :: ·)).getD [] ++ (cutAuthority text).2 = text := by
  unfold cutAuthority
  split
  · rw [Option.map_some, Option.getD_some, List.cons_append, List.cons_append,
      List.takeWhile_append_dropWhile]
  · rfl

theorem toText_ofText (text : List Char) : (Reference.ofText text).toText = text := by
  have authority := cutAuthority_join (cutScheme (cut '?' (cut '#' text).1).1).2
  have scheme := cutScheme_join (cut '?' (cut '#' text).1).1
  have query := cut_join '?' (cut '#' text).1
  have fragment := cut_join '#' text
  unfold Reference.ofText Reference.toText
  dsimp only
  rw [List.append_assoc (Option.getD _ _), authority, scheme, query, fragment]

/-- An IRI stands for itself, whatever it is read relative to. -/
theorem resolve?_of_isIri {text : String} (iri : isIri text = true) (base : Option String) :
    resolve? base text = some text := by
  unfold resolve?
  cases base with
  | none => exact if_pos iri
  | some base =>
      obtain ⟨scheme, wellFormed⟩ := Bool.and_eq_true_iff.mp iri
      dsimp only
      rw [if_pos wellFormed, Reference.resolve?, if_pos scheme, Option.map_some, toText_ofText,
        String.ofList_toList]

/-! ## Characters that no IRI contains -/

/-- The character neither ends an IRI in brackets nor starts a code point. -/
def IsTame (c : Char) : Prop := c ≠ '>' ∧ c ≠ '\\'

instance (c : Char) : Decidable (IsTame c) := inferInstanceAs (Decidable (_ ∧ _))

theorem isTame_of {allowed : Char → Bool} (closing : allowed '>' = false)
    (backslash : allowed '\\' = false) {c : Char} (here : allowed c = true) : IsTame c := by
  constructor
  · rintro rfl
    exact Bool.false_ne_true (closing.symm.trans here)
  · rintro rfl
    exact Bool.false_ne_true (backslash.symm.trans here)

theorem isTame_of_isEncoded {allowed : Char → Bool} (closing : allowed '>' = false)
    (backslash : allowed '\\' = false) {text : List Char}
    (encoded : isEncoded allowed text = true) : ∀ c ∈ text, IsTame c := by
  have digit {c : Char} (digit : isHexDigit c = true) : IsTame c :=
    isTame_of (by decide) (by decide) digit
  fun_induction isEncoded allowed text with
  | case1 => exact List.forall_mem_nil _
  | case2 a b rest ih =>
      simp only [Bool.and_eq_true] at encoded
      simp only [List.forall_mem_cons]
      exact ⟨⟨by decide, by decide⟩, digit encoded.1.1, digit encoded.1.2, ih encoded.2⟩
  | case3 c rest _ ih =>
      simp only [Bool.and_eq_true] at encoded
      exact List.forall_mem_cons.mpr ⟨isTame_of closing backslash encoded.1.2, ih encoded.2⟩

theorem isTame_of_all {allowed : Char → Bool} (closing : allowed '>' = false)
    (backslash : allowed '\\' = false) {text : List Char} (all : text.all allowed = true) :
    ∀ c ∈ text, IsTame c :=
  fun c mem => isTame_of closing backslash (List.all_eq_true.mp all c mem)

/-- Of two parts with a mark between them. -/
theorem isTame_cut {c : Char} (mark : IsTame c) {before behind : List Char}
    (left : ∀ c ∈ before, IsTame c) (right : ∀ c ∈ behind, IsTame c) :
    ∀ d ∈ before ++ c :: behind, IsTame d :=
  List.forall_mem_append.mpr ⟨left, List.forall_mem_cons.mpr ⟨mark, right⟩⟩

theorem isTame_splitOn {c : Char} (mark : IsTame c) {text : List Char}
    (parts : ∀ part ∈ text.splitOn c, ∀ d ∈ part, IsTame d) : ∀ d ∈ text, IsTame d := by
  have joined : [c].intercalate (text.splitOn c) = text := List.intercalate_splitOn c
  rw [← joined]
  generalize text.splitOn c = pieces at parts
  induction pieces with
  | nil => exact List.forall_mem_nil _
  | cons part rest ih =>
      rw [List.forall_mem_cons] at parts
      cases rest with
      | nil =>
          rw [List.intercalate_singleton]
          exact parts.1
      | cons next rest =>
          rw [List.intercalate_cons_cons, List.append_assoc, List.singleton_append]
          exact isTame_cut mark parts.1 (ih parts.2)

/-! ### Hosts -/

theorem isTame_of_isIpv4 {text : List Char} (address : isIpv4 text = true) :
    ∀ c ∈ text, IsTame c := by
  refine isTame_splitOn (c := '.') (by decide) fun part mem => ?_
  have octet := List.all_eq_true.mp (Bool.and_eq_true_iff.mp address).2 part mem
  unfold isOctet at octet
  split at octet
  · cases octet
  · rw [List.isEmpty_iff] at octet
    subst octet
    exact List.forall_mem_singleton.mpr (by decide)
  · simp only [Bool.and_eq_true] at octet
    exact isTame_of_all (by decide) (by decide) octet.1.2

theorem isTame_of_groupCount? {allowIpv4 : Bool} {groups : List (List Char)} {n : Nat}
    (counted : groupCount? allowIpv4 groups = some n) :
    ∀ group ∈ groups, ∀ c ∈ group, IsTame c := by
  have hex {group : List Char} (group' : isHexGroup group = true) : ∀ c ∈ group, IsTame c :=
    isTame_of_all (by decide) (by decide) (Bool.and_eq_true_iff.mp group').2
  fun_induction groupCount? allowIpv4 groups generalizing n with
  | case1 => exact List.forall_mem_nil _
  | case2 last here => exact List.forall_mem_singleton.mpr (hex here)
  | case3 last _ here =>
      exact List.forall_mem_singleton.mpr (isTame_of_isIpv4 (Bool.and_eq_true_iff.mp here).2)
  | case4 => cases counted
  | case5 group rest _ here ih =>
      obtain ⟨m, counted, -⟩ := Option.map_eq_some_iff.mp counted
      exact List.forall_mem_cons.mpr ⟨hex here, ih counted⟩
  | case6 => cases counted

theorem isTame_of_colonGroups? {allowIpv4 : Bool} {text : List Char} {n : Nat}
    (counted : colonGroups? allowIpv4 text = some n) : ∀ c ∈ text, IsTame c := by
  unfold colonGroups? at counted
  split at counted
  next empty =>
      rw [List.isEmpty_iff] at empty
      subst empty
      exact List.forall_mem_nil _
  next => exact isTame_splitOn (c := ':') (by decide) (isTame_of_groupCount? counted)

theorem atDoubleColon?_join {text before behind : List Char}
    (found : atDoubleColon? text = some (before, behind)) :
    text = before ++ ':' :: ':' :: behind := by
  fun_induction atDoubleColon? text generalizing before with
  | case1 rest =>
      cases found
      rfl
  | case2 => cases found
  | case3 c rest _ ih =>
      obtain ⟨⟨before', behind'⟩, found, same⟩ := Option.map_eq_some_iff.mp found
      cases same
      rw [ih found, List.cons_append]

theorem isTame_of_isIpv6 {text : List Char} (address : isIpv6 text = true) :
    ∀ c ∈ text, IsTame c := by
  unfold isIpv6 at address
  split at address
  · exact isTame_of_colonGroups? (beq_iff_eq.mp address)
  · next before behind found =>
      rw [atDoubleColon?_join found]
      split at address
      · next m n left right =>
          exact isTame_cut (by decide) (isTame_of_colonGroups? left)
            (List.forall_mem_cons.mpr ⟨by decide, isTame_of_colonGroups? right⟩)
      · cases address

theorem isTame_takeWhile {allowed : Char → Bool} (closing : allowed '>' = false)
    (backslash : allowed '\\' = false) (text : List Char) :
    ∀ c ∈ text.takeWhile allowed, IsTame c :=
  isTame_of_all closing backslash (List.all_takeWhile)

theorem isTame_of_isIpFuture {text : List Char} (address : isIpFuture text = true) :
    ∀ c ∈ text, IsTame c := by
  unfold isIpFuture at address
  split at address
  · next v rest =>
      dsimp only at address
      split at address
      · next address' behind =>
          simp only [Bool.and_eq_true, Bool.or_eq_true, beq_iff_eq] at address
          obtain ⟨⟨⟨version, -⟩, -⟩, rest'⟩ := address
          rw [← List.takeWhile_append_dropWhile (p := isHexDigit) (l := rest), behind]
          refine List.forall_mem_cons.mpr ⟨?_, isTame_cut (by decide)
            (isTame_takeWhile (by decide) (by decide) rest)
            (isTame_of_all (by decide) (by decide) rest')⟩
          rcases version with rfl | rfl <;> decide
      · cases address
  · exact List.forall_mem_nil _

theorem isTame_of_isPortNumber {text : List Char} (port : isPortNumber text = true) :
    ∀ c ∈ text, IsTame c := by
  unfold isPortNumber at port
  split at port
  · exact List.forall_mem_nil _
  · exact List.forall_mem_cons.mpr ⟨by decide, isTame_of_all (by decide) (by decide) port⟩
  · cases port

theorem isTame_of_isHostAndPort {text : List Char} (host : isHostAndPort text = true) :
    ∀ c ∈ text, IsTame c := by
  unfold isHostAndPort at host
  split at host
  · next rest =>
      split at host
      · next d behind stopped =>
          obtain ⟨address, port⟩ := Bool.and_eq_true_iff.mp host
          rw [(dropWhile_eq_cons stopped).2]
          refine List.forall_mem_cons.mpr ⟨by decide, isTame_cut (by decide) ?_
            (isTame_of_isPortNumber port)⟩
          rcases Bool.or_eq_true_iff.mp address with address | address
          · exact isTame_of_isIpv6 address
          · exact isTame_of_isIpFuture address
      · cases host
  · obtain ⟨name, port⟩ := Bool.and_eq_true_iff.mp host
    rw [← List.takeWhile_append_dropWhile (p := (· ≠ ':')) (l := text)]
    exact List.forall_mem_append.mpr
      ⟨isTame_of_isEncoded (by decide) (by decide) name, isTame_of_isPortNumber port⟩

theorem isTame_of_isAuthority {text : List Char} (authority : isAuthority text = true) :
    ∀ c ∈ text, IsTame c := by
  unfold isAuthority at authority
  split at authority
  · next d host stopped =>
      obtain ⟨user, host⟩ := Bool.and_eq_true_iff.mp authority
      rw [(dropWhile_eq_cons stopped).2]
      exact isTame_cut (by decide) (isTame_of_isEncoded (by decide) (by decide) user)
        (isTame_of_isHostAndPort host)
  · exact isTame_of_isHostAndPort authority

/-! ### Whole IRIs -/

theorem isTame_of_cutScheme {text scheme : List Char} (found : (cutScheme text).1 = some scheme) :
    ∀ c ∈ scheme, IsTame c := by
  unfold cutScheme at found
  split at found
  next first rest =>
      split at found
      · split at found
        · obtain rfl := Option.some.inj found
          exact isTame_takeWhile (by decide) (by decide) (first :: rest)
        · cases found
      · cases found
  next => cases found

/-- A part that may be missing, with the marks that tell it from the others. -/
theorem isTame_optional {part : Option (List Char)} {marked : List Char → List Char}
    (tame : ∀ text, part = some text → ∀ c ∈ marked text, IsTame c) :
    ∀ c ∈ (part.map marked).getD [], IsTame c := by
  cases part with
  | none => exact List.forall_mem_nil _
  | some text => exact tame text rfl

/-- No IRI contains a closing bracket or a backslash. -/
theorem isTame_of_isIri {text : String} (iri : isIri text = true) :
    ∀ c ∈ text.toList, IsTame c := by
  have wellFormed := (Bool.and_eq_true_iff.mp iri).2
  have scheme (found : List Char) (here : (Reference.ofText text.toList).scheme = some found) :
    ∀ c ∈ found, IsTame c := isTame_of_cutScheme here
  rw [← toText_ofText text.toList]
  generalize Reference.ofText text.toList = reference at wellFormed scheme
  simp only [Reference.isWellFormed, Bool.and_eq_true, Option.all_eq_true] at wellFormed
  obtain ⟨⟨⟨⟨-, authority⟩, path⟩, query⟩, fragment⟩ := wellFormed
  unfold Reference.toText
  simp only [List.forall_mem_append]
  refine ⟨⟨⟨⟨?scheme, ?authority⟩, ?path⟩, ?query⟩, ?fragment⟩
  case scheme =>
    exact isTame_optional fun found here => List.forall_mem_append.mpr
      ⟨scheme found here, List.forall_mem_singleton.mpr (by decide)⟩
  case authority =>
    exact isTame_optional fun found here => List.forall_mem_cons.mpr ⟨by decide,
      List.forall_mem_cons.mpr ⟨by decide, isTame_of_isAuthority (authority found here)⟩⟩
  case path => exact isTame_of_isEncoded (by decide) (by decide) path
  case query =>
    exact isTame_optional fun found here => List.forall_mem_cons.mpr
      ⟨by decide, isTame_of_isEncoded (by decide) (by decide) (query found here)⟩
  case fragment =>
    exact isTame_optional fun found here => List.forall_mem_cons.mpr
      ⟨by decide, isTame_of_isEncoded (by decide) (by decide) (fragment found here)⟩

end RdfDataset.Iri
