import Bindery.Proofs.UriPath

/-! References taken apart. A reference is a scheme and an authority, if it has them, a path, and the
query and the fragment behind it. Every reference can be taken apart, and its parts determine what
counts as its path. -/
namespace Bindery.UriPath

def IsScheme (s : List Char) : Prop :=
  (∃ c ∈ s.head?, isLetter c = true) ∧ ∀ c ∈ s, isSchemeChar c = true

structure Parts where
  scheme : Option (List Char) := none
  authority : Option (List Char) := none
  path : List Char
  behind : List Char := []

namespace Parts

def hierarchy (p : Parts) : List Char :=
  match p.authority with
  | none => p.path
  | some authority => '/' :: '/' :: authority ++ p.path

/-- The parts up to the end of the path. -/
def front (p : Parts) : List Char :=
  match p.scheme with
  | none => p.hierarchy
  | some scheme => scheme ++ ':' :: p.hierarchy

def text (p : Parts) : List Char := p.front ++ p.behind

/-- Each part ends where the next one begins, and a part that is missing is not there under another
name: what could be read as a scheme is one, and so is an authority behind a scheme. -/
structure WellFormed (p : Parts) : Prop where
  scheme : ∀ scheme ∈ p.scheme, IsScheme scheme
  relative : p.scheme = none →
    p.authority = none ∧ ∀ s rest, p.path = s ++ ':' :: rest → ¬ IsScheme s
  authority : ∀ authority ∈ p.authority, '/' ∉ authority ∧ ∀ c ∈ p.path.head?, c = '/'
  rooted : p.authority = none → p.scheme.isSome = true → ∀ rest, p.path ≠ '/' :: '/' :: rest
  inFront : ∀ c ∈ p.front, c ≠ '#' ∧ c ≠ '?'
  behind : ∀ c ∈ p.behind.head?, c = '#' ∨ c = '?'

/-- A reference with a scheme and no slash behind it. -/
def isOpaque (p : Parts) : Bool :=
  p.scheme.isSome && p.authority.isNone && p.path.head? != some '/'

end Parts

/-! ## The path of a reference in parts -/

theorem upTo_append {stop : Char → Bool} {front : List Char} (free : ∀ c ∈ front, stop c = false)
    (rest : List Char) : upTo stop (front ++ rest) = front ++ upTo stop rest :=
  List.takeWhile_append_of_pos fun c listed => by simp [free c listed]

theorem afterScheme?_append {scheme : List Char} (isScheme : IsScheme scheme) (rest : List Char) :
    afterScheme? (scheme ++ ':' :: rest) = some rest := by
  obtain ⟨⟨c, first, letter⟩, kind⟩ := isScheme
  have dropped : (scheme ++ ':' :: rest).dropWhile isSchemeChar = ':' :: rest := by
    rw [List.dropWhile_append_of_pos kind, List.dropWhile_cons_of_neg (by decide)]
  have head : (scheme ++ ':' :: rest).head? = some c := by
    rw [List.head?_append, Option.mem_def.mp first]
    rfl
  unfold afterScheme?
  rw [dropped, head]
  simp [letter]

theorem of_afterScheme? {cs rest : List Char} (found : afterScheme? cs = some rest) :
    ∃ scheme, IsScheme scheme ∧ cs = scheme ++ ':' :: rest := by
  unfold afterScheme? at found
  split at found
  · rename_i rest' behind
    split at found
    · rename_i letter
      cases found
      have whole : cs.takeWhile isSchemeChar ++ cs.dropWhile isSchemeChar = cs :=
        List.takeWhile_append_dropWhile
      rw [behind] at whole
      refine ⟨cs.takeWhile isSchemeChar, ⟨?_, fun c listed => ?_⟩, whole.symm⟩
      · cases cs with
        | nil => cases behind
        | cons c cs =>
          have first : isLetter c = true := letter
          have kind : isSchemeChar c = true := by simp [isSchemeChar, first]
          refine ⟨c, ?_, first⟩
          rw [List.takeWhile_cons_of_pos kind]
          rfl
      · exact List.all_eq_true.mp List.all_takeWhile c listed
    · cases found
  · cases found

/-! ### One kind of reference each -/

section
variable {cs rest : List Char}

theorem component?_of_relative (plain : afterScheme? cs = none) : component? cs =
    if ':' ∈ upTo (· == '/') cs then none else some cs := by
  unfold component?
  rw [plain]
  simp

theorem component?_of_authority (found : afterScheme? cs = some ('/' :: '/' :: rest)) :
    component? cs = some (rest.dropWhile (· ≠ '/')) := by
  unfold component?
  rw [found]
  rfl

theorem component?_of_rooted (found : afterScheme? cs = some rest) (slash : rest.head? = some '/')
    (single : ∀ tail, rest ≠ '/' :: '/' :: tail) : component? cs = some rest := by
  obtain ⟨tail, rfl⟩ := List.head?_eq_some_iff.mp slash
  unfold component?
  rw [found]
  split
  · rename_i tail' same
    exact absurd (Option.some.inj same) (single tail')
  · rename_i same
    exact same.symm
  · rename_i other last same
    cases same
    exact absurd rfl (last tail)
  · rename_i same
    cases same

theorem component?_slashless (found : afterScheme? cs = some rest) (other : rest.head? ≠ some '/') :
    component? cs = some [] := by
  unfold component?
  rw [found]
  split
  · rename_i same
    cases same
    exact absurd rfl other
  · rename_i same
    cases same
    exact absurd rfl other
  · rfl
  · rename_i same
    cases same

theorem dropWhile_authority {authority path : List Char} (solid : '/' ∉ authority)
    (ends : ∀ c ∈ path.head?, c = '/') : (authority ++ path).dropWhile (· ≠ '/') = path := by
  have passed : ∀ c ∈ authority, decide (c ≠ '/') = true := by
    intro c listed
    exact decide_eq_true fun slash => solid (slash ▸ listed)
  rw [List.dropWhile_append_of_pos passed]
  cases path with
  | nil => rfl
  | cons c cs => exact List.dropWhile_cons_of_neg (by simp [ends c rfl])

end

namespace Parts

variable {p : Parts}

theorem inFront_of_all (all : p.front.all (fun c => c != '#' && c != '?') = true) :
    ∀ c ∈ p.front, c ≠ '#' ∧ c ≠ '?' := by
  intro c listed
  have kind := List.all_eq_true.mp all c listed
  simpa using kind

theorem upTo_text (wf : p.WellFormed) : upTo (· == '?') (upTo (· == '#') p.text) = p.front := by
  have fragment : ∀ c ∈ p.front, (c == '#') = false := by
    intro c listed
    simpa using (wf.inFront c listed).1
  have query : ∀ c ∈ p.front, (c == '?') = false := by
    intro c listed
    simpa using (wf.inFront c listed).2
  unfold text
  rw [upTo_append fragment, upTo_append query]
  cases rest : p.behind with
  | nil => simp [upTo]
  | cons c cs =>
    rcases wf.behind c (by rw [rest]; rfl) with rfl | rfl
    · simp [upTo]
    · simp [upTo]

/-- The path of a reference in parts: there is none if the reference is opaque, and a relative one
may have no colon before its first slash. -/
theorem component?_front (wf : p.WellFormed) : component? p.front =
    if p.isOpaque then some []
    else if p.scheme = none ∧ ':' ∈ upTo (· == '/') p.path then none
    else some p.path := by
  cases given : p.scheme with
  | none =>
    obtain ⟨bare, unnamed⟩ := wf.relative given
    have front : p.front = p.path := by simp only [Parts.front, hierarchy, given, bare]
    have plain : afterScheme? p.path = none := by
      cases found : afterScheme? p.path with
      | none => rfl
      | some rest =>
        obtain ⟨scheme, isScheme, same⟩ := of_afterScheme? found
        exact absurd isScheme (unnamed scheme rest same)
    have relative : p.isOpaque = false := by simp [isOpaque, given]
    rw [front, component?_of_relative plain, relative]
    simp
  | some scheme =>
    have found : afterScheme? p.front = some p.hierarchy := by
      have front : p.front = scheme ++ ':' :: p.hierarchy := by simp only [Parts.front, given]
      rw [front, afterScheme?_append (wf.scheme scheme given)]
    cases named : p.authority with
    | some authority =>
      obtain ⟨solid, ends⟩ := wf.authority authority named
      have whole : p.hierarchy = '/' :: '/' :: (authority ++ p.path) := by
        simp only [hierarchy, named, List.cons_append]
      have parted : p.isOpaque = false := by simp [isOpaque, named]
      rw [whole] at found
      rw [component?_of_authority found, dropWhile_authority solid ends, parted]
      simp
    | none =>
      have whole : p.hierarchy = p.path := by simp only [hierarchy, named]
      rw [whole] at found
      by_cases slash : p.path.head? = some '/'
      · have rooted : p.isOpaque = false := by simp [isOpaque, slash]
        have single := wf.rooted named (by rw [given]; rfl)
        rw [component?_of_rooted found slash single, rooted]
        simp
      · have isOpaque : p.isOpaque = true := by simp [isOpaque, given, named, slash]
        rw [component?_slashless found slash, if_pos isOpaque]

theorem pathOf?_text (wf : p.WellFormed) : pathOf? (spell p.text) =
    if p.isOpaque then some []
    else if p.scheme = none ∧ ':' ∈ upTo (· == '/') p.path then none
    else some p.path := by
  unfold pathOf?
  rw [spell, String.toList_ofList, upTo_text wf, component?_front wf]

/-! ## Every reference has parts -/

theorem exists_hierarchy (rest : List Char) : ∃ (authority : Option (List Char)) (path : List Char),
    hierarchy { authority, path } = rest ∧
      (∀ a ∈ authority, '/' ∉ a ∧ ∀ c ∈ path.head?, c = '/') ∧
      (authority = none → ∀ tail, path ≠ '/' :: '/' :: tail) := by
  by_cases named : ∃ tail, rest = '/' :: '/' :: tail
  · obtain ⟨tail, rfl⟩ := named
    refine ⟨some (tail.takeWhile (· ≠ '/')), tail.dropWhile (· ≠ '/'), ?_, ?_, nofun⟩
    · simp only [hierarchy, List.cons_append, List.takeWhile_append_dropWhile]
    · rintro _ ⟨⟩
      constructor
      · intro listed
        simpa using List.all_eq_true.mp List.all_takeWhile '/' listed
      · intro c first
        have last := List.head?_dropWhile_not (fun c => decide (c ≠ '/')) tail
        rw [first] at last
        simpa using last
  · exact ⟨none, rest, rfl, nofun, fun _ tail same => named ⟨tail, same⟩⟩

theorem exists_parts (cs : List Char) : ∃ p : Parts, p.WellFormed ∧ p.text = cs := by
  let ends (c : Char) : Bool := c == '#' || c == '?'
  let behind := cs.dropWhile (! ends ·)
  have whole : upTo ends cs ++ behind = cs := List.takeWhile_append_dropWhile
  have inFront : ∀ c ∈ upTo ends cs, c ≠ '#' ∧ c ≠ '?' := by
    intro c listed
    have kind : (! ends c) = true := List.all_eq_true.mp List.all_takeWhile c listed
    simpa [ends] using kind
  have last : ∀ c ∈ behind.head?, c = '#' ∨ c = '?' := by
    intro c first
    have kind := List.head?_dropWhile_not (! ends ·) cs
    rw [first] at kind
    simpa [ends, Classical.or_iff_not_imp_left] using kind
  cases found : afterScheme? (upTo ends cs) with
  | none =>
    refine ⟨{ path := upTo ends cs, behind }, ?_, whole⟩
    refine ⟨nofun, fun _ => ⟨rfl, ?_⟩, nofun, nofun, inFront, last⟩
    intro s rest same isScheme
    have same : upTo ends cs = s ++ ':' :: rest := same
    rw [same, afterScheme?_append isScheme] at found
    cases found
  | some rest =>
    obtain ⟨scheme, isScheme, same⟩ := of_afterScheme? found
    obtain ⟨authority, path, hierarchy, parted, rooted⟩ := exists_hierarchy rest
    have front : Parts.front { scheme := some scheme, authority, path, behind } =
        upTo ends cs := by
      rw [same, ← hierarchy]
      rfl
    refine ⟨{ scheme := some scheme, authority, path, behind }, ?_, ?_⟩
    · refine ⟨?_, nofun, parted, fun bare _ => rooted bare, front ▸ inFront, last⟩
      rintro _ ⟨⟩
      exact isScheme
    · unfold text
      rw [front]
      exact whole

end Parts

/-! ## References without a path -/

/-- A reference whose path is empty, or that has none for being opaque. -/
def IsPathless (reference : String) : Prop :=
  reference.toList.any isControl = false ∧ ∃ parts : Parts, parts.WellFormed ∧
    parts.text = reference.toList ∧ (parts.isOpaque = true ∨ parts.path = [])

theorem decodeFrom_ne_nil {seen : Bytes} {cs : List Char} (given : seen ≠ [] ∨ cs ≠ []) :
    decodeFrom seen cs ≠ [] := by
  fun_induction decodeFrom seen cs with
  | case1 seen => simpa using given
  | case2 seen a b rest high low second first ih => exact ih (.inl (List.cons_ne_nil _ _))
  | case3 seen a b rest odd ih => exact ih (.inl (List.cons_ne_nil _ _))
  | case4 seen c rest solid ih =>
    have octets : String.utf8EncodeChar c ≠ [] := String.utf8EncodeChar_ne_nil
    exact ih (.inl (by simp [octets]))

variable {reference : String}

theorem pathOf?_of_pathless (pathless : IsPathless reference) : pathOf? reference = some [] := by
  obtain ⟨_, parts, wf, text, kind⟩ := pathless
  have path := Parts.pathOf?_text wf
  rw [text, spell, String.ofList_toList] at path
  rw [path]
  rcases kind with isOpaque | empty
  · rw [if_pos isOpaque]
  · rw [empty]
    simp [upTo]

theorem pathless_of_pathOf? (printable : reference.toList.any isControl = false)
    (path : pathOf? reference = some []) : IsPathless reference := by
  obtain ⟨parts, wf, text⟩ := Parts.exists_parts reference.toList
  refine ⟨printable, parts, wf, text, ?_⟩
  have whole := Parts.pathOf?_text wf
  rw [text, spell, String.ofList_toList, path] at whole
  split at whole
  · rename_i isOpaque
    exact .inl isOpaque
  · split at whole
    · cases whole
    · exact .inr (Option.some.inj whole).symm

/-- Nothing but a missing path is escaped to nothing. -/
theorem escaped?_eq_empty_iff : escaped? reference = some "" ↔ IsPathless reference := by
  constructor
  · intro escaped
    obtain ⟨printable, raw, path, _, ⟨_, kept⟩ | ⟨odd, anew⟩⟩ := escaped_cases escaped
    · exact pathless_of_pathOf? printable (path.trans (congrArg some kept.symm))
    · have octets : decode raw = [] := by
        rw [← decode_escape (decode raw), ← anew]
        exact decode_nil
      cases raw with
      | nil => cases odd
      | cons c rest => exact absurd octets (decodeFrom_ne_nil (.inr (List.cons_ne_nil c rest)))
  · intro pathless
    rw [escaped?_of_path pathless.1 (pathOf?_of_pathless pathless)]
    rfl

end Bindery.UriPath
