import Bindery.Proofs.UriPath.Escaping

/-! Escaped paths as references. An escaped path is its own escaped path unless it begins like a
scheme: the escapes of a path that is escaped anew may bring out a colon before its first slash, and
none that is kept has one there. -/
namespace Bindery.UriPath

/-- A relative reference that is a path and nothing else. -/
structure IsRelativePath (text : String) : Prop where
  wellFormed : Parts.WellFormed { path := text.toList }
  path : pathOf? text = some text.toList

/-- The path of the reference is escaped anew, and a colon comes before the first slash of what it
stands for. -/
def BringsOutColon (reference : String) : Prop :=
  ∃ raw, pathOf? reference = some raw ∧ raw.all isEscapedForm = false ∧
    0x3a ∈ (decode raw).takeWhile (· ≠ 0x2f)

/-! ## Where paths come from -/

section
variable {cs raw : List Char}

theorem suffix_of_afterScheme? {rest : List Char} (found : afterScheme? cs = some rest)
    (path : component? cs = some raw) : raw <:+ rest := by
  unfold component? at path
  rw [found] at path
  split at path
  · rename_i tail same
    cases same
    cases path
    refine (List.dropWhile_suffix _).trans ?_
    exact List.suffix_append ['/', '/'] tail
  · rename_i same
    cases same
    cases path
    exact List.suffix_rfl
  · cases path
    exact List.nil_suffix
  · rename_i same
    cases same

theorem suffix_of_component? (path : component? cs = some raw) : raw <:+ cs := by
  cases found : afterScheme? cs with
  | none =>
    rw [component?_of_relative found] at path
    split at path
    · cases path
    · cases path
      exact List.suffix_rfl
  | some rest =>
    obtain ⟨scheme, _, same⟩ := of_afterScheme? found
    refine (suffix_of_afterScheme? found path).trans ?_
    rw [same]
    exact (List.suffix_cons ':' rest).trans (List.suffix_append scheme _)

/-- Only a relative reference is its own path, and then no colon comes before its first slash. -/
theorem not_colon_of_whole (path : component? cs = some cs) : ':' ∉ upTo (· == '/') cs := by
  cases found : afterScheme? cs with
  | none =>
    rw [component?_of_relative found] at path
    split at path
    · cases path
    · rename_i relative
      exact relative
  | some rest =>
    obtain ⟨scheme, _, same⟩ := of_afterScheme? found
    have short := (suffix_of_afterScheme? found path).length_le
    have long := congrArg List.length same
    rw [List.length_append, List.length_cons] at long
    omega

/-- No path has a colon before its first slash: with a scheme in front it is empty or begins with a
slash. -/
theorem not_colon_of_component? (path : component? cs = some raw) :
    ':' ∉ upTo (· == '/') raw := by
  cases found : afterScheme? cs with
  | none =>
    rw [component?_of_relative found] at path
    split at path
    · cases path
    · rename_i relative
      cases path
      exact relative
  | some rest =>
    unfold component? at path
    rw [found] at path
    split at path
    · rename_i tail same
      cases path
      have last := List.head?_dropWhile_not (fun c => decide (c ≠ '/')) tail
      cases held : tail.dropWhile (fun c => decide (c ≠ '/')) with
      | nil => exact List.not_mem_nil
      | cons c path =>
        rw [held] at last
        have slash : c = '/' := by simpa using last
        simp [upTo, slash]
    · cases path
      simp [upTo]
    · cases path
      exact List.not_mem_nil
    · rename_i same
      cases same

end

/-! ## Escaped paths as they are read -/

theorem isControl_of_isEscapedForm {c : Char} (form : isEscapedForm c = true) :
    isControl c = false := by
  have solid : ∀ n : Fin 128, isEscapedForm (Char.ofNat n.val) = true →
      isControl (Char.ofNat n.val) = false := by
    decide +kernel
  by_cases small : c.toNat < 128
  · have same := solid ⟨c.toNat, small⟩
    rw [Char.ofNat_toNat] at same
    exact same form
  · have above : ¬ c < ' ' := fun below => by
      have below : c.toNat < 32 := below
      omega
    have other : c ≠ '\x7f' := fun same => small (by rw [same]; decide)
    simp [isControl, above, other]

section
variable {reference uri : String}

theorem pathOf?_of_form (form : ∀ c ∈ uri.toList, isEscapedForm c = true) :
    pathOf? uri = component? uri.toList := by
  have fragment : upTo (· == '#') uri.toList = uri.toList := by
    apply upTo_eq_self
    intro c listed
    refine beq_eq_false_iff_ne.mpr ?_
    rintro rfl
    exact absurd (form _ listed) (by decide)
  have query : upTo (· == '?') uri.toList = uri.toList := by
    apply upTo_eq_self
    intro c listed
    refine beq_eq_false_iff_ne.mpr ?_
    rintro rfl
    exact absurd (form _ listed) (by decide)
  unfold pathOf?
  rw [fragment, query]

theorem printable_of_form (form : ∀ c ∈ uri.toList, isEscapedForm c = true) :
    uri.toList.any isControl = false :=
  isPrintable_iff.mp fun c listed => isControl_of_isEscapedForm (form c listed)

theorem escaped?_of_relative (escaped : escaped? reference = some uri)
    (relative : ':' ∉ upTo (· == '/') uri.toList) :
    pathOf? uri = some uri.toList ∧ escaped? uri = some uri := by
  have form := isEscapedForm_of_escaped escaped
  have path : pathOf? uri = some uri.toList := by
    rw [pathOf?_of_form form, component?_of_relative (afterScheme?_eq_none relative),
      if_neg relative]
  refine ⟨path, ?_⟩
  rw [escaped?_of_path (printable_of_form form) path, escapesValid_of_escaped escaped,
    if_neg (by decide), if_pos (List.all_eq_true.mpr form), spell, String.ofList_toList]

theorem escaped_again_iff (escaped : escaped? reference = some uri) :
    escaped? uri = some uri ↔ ':' ∉ upTo (· == '/') uri.toList := by
  have form := isEscapedForm_of_escaped escaped
  constructor
  · intro again
    obtain ⟨_, raw, path, _, ⟨_, kept⟩ | ⟨odd, _⟩⟩ := escaped_cases again
    · rw [pathOf?_of_form form, ← kept] at path
      exact not_colon_of_whole path
    · rw [pathOf?_of_form form] at path
      have part := (suffix_of_component? path).subset
      have all : raw.all isEscapedForm = true :=
        List.all_eq_true.mpr fun c listed => form c (part listed)
      rw [all] at odd
      cases odd
  · exact fun relative => (escaped?_of_relative escaped relative).2

theorem isRelativePath_iff (escaped : escaped? reference = some uri) :
    IsRelativePath uri ↔ ':' ∉ upTo (· == '/') uri.toList := by
  have form := isEscapedForm_of_escaped escaped
  constructor
  · rintro ⟨_, path⟩
    rw [pathOf?_of_form form] at path
    exact not_colon_of_whole path
  · intro relative
    refine ⟨⟨nofun, fun _ => ⟨rfl, ?_⟩, nofun, nofun, ?_, nofun⟩,
      (escaped?_of_relative escaped relative).1⟩
    · intro s rest same isScheme
      have same : uri.toList = s ++ ':' :: rest := same
      have none := afterScheme?_eq_none relative
      rw [same, afterScheme?_append isScheme] at none
      cases none
    · intro c listed
      have listed : c ∈ uri.toList := listed
      constructor
      · rintro rfl
        exact absurd (form _ listed) (by decide)
      · rintro rfl
        exact absurd (form _ listed) (by decide)

/-! ## Colons that are brought out -/

/-- What stands for an octet other than a colon and a slash holds neither of them. -/
theorem solid_octet : ∀ n : Fin 256, n.val ≠ 0x2f → n.val ≠ 0x3a →
    (escape [UInt8.ofNat n.val]).all (fun c => c != '/' && c != ':') = true := by
  decide +kernel

theorem colon_mem_escape (bytes : Bytes) : ':' ∈ upTo (· == '/') (escape bytes) ↔
    0x3a ∈ bytes.takeWhile (· ≠ 0x2f) := by
  induction bytes with
  | nil => simp [escape, upTo]
  | cons b bytes ih =>
    by_cases slash : b = 0x2f
    · subst slash
      have first : escape (0x2f :: bytes) = '/' :: escape bytes := rfl
      simp [first, upTo]
    by_cases colon : b = 0x3a
    · subst colon
      have first : escape (0x3a :: bytes) = ':' :: escape bytes := rfl
      simp [first, upTo]
    have other (n : UInt8) (different : b ≠ n) : b.toNat ≠ n.toNat := by
      intro same
      exact different (UInt8.toNat_inj.mp same)
    have octet := solid_octet ⟨b.toNat, b.toNat_lt⟩ (other 0x2f slash) (other 0x3a colon)
    rw [UInt8.ofNat_toNat] at octet
    have piece : ∀ c ∈ escape [b], (c == '/') = false ∧ c ≠ ':' := by
      intro c listed
      have kind := List.all_eq_true.mp octet c listed
      simpa using kind
    have split : escape (b :: bytes) = escape [b] ++ escape bytes := by
      rw [escape_cons, escape_cons, List.append_assoc]
      rfl
    have none : ':' ∉ escape [b] := fun listed => (piece ':' listed).2 rfl
    have passed : (b :: bytes).takeWhile (· ≠ 0x2f) = b :: bytes.takeWhile (· ≠ 0x2f) :=
      List.takeWhile_cons_of_pos (decide_eq_true slash)
    have further : (0x3a : UInt8) ≠ b := fun same => colon same.symm
    rw [split, upTo_append fun c listed => (piece c listed).1, List.mem_append, passed,
      List.mem_cons]
    simp only [none, further, false_or]
    exact ih

theorem colon_iff_bringsOut (escaped : escaped? reference = some uri) :
    ':' ∈ upTo (· == '/') uri.toList ↔ BringsOutColon reference := by
  obtain ⟨_, raw, path, _, ⟨form, kept⟩ | ⟨odd, anew⟩⟩ := escaped_cases escaped
  · have free := not_colon_of_component? path
    rw [kept]
    refine ⟨fun colon => absurd colon free, ?_⟩
    rintro ⟨_, same, odd, _⟩
    cases path.symm.trans same
    rw [form] at odd
    cases odd
  · rw [anew, colon_mem_escape]
    refine ⟨fun colon => ⟨raw, path, odd, colon⟩, ?_⟩
    rintro ⟨_, same, _, colon⟩
    cases path.symm.trans same
    exact colon

end

end Bindery.UriPath
