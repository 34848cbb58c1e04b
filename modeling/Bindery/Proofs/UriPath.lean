import Bindery.Proofs.Text.Utf8
import Bindery.UriPath

/-! What an escaped path stands for. Its octets are those of the path that it was made from, so that
names without reserved characters keep apart. Names with a query, a fragment, a scheme or escapes
may share one. -/
namespace Bindery.UriPath

/-! ## Decoding -/

theorem decodeFrom_append (seen front : Bytes) (cs : List Char) :
    decodeFrom (seen ++ front) cs = front.reverse ++ decodeFrom seen cs := by
  fun_induction decodeFrom seen cs with
  | case1 seen => simp [decodeFrom]
  | case2 seen a b rest high low second first ih =>
    rw [decodeFrom, first, second]
    exact ih
  | case3 seen a b rest odd ih =>
    have literal : decodeFrom (seen ++ front) ('%' :: a :: b :: rest) =
        decodeFrom ('%'.toUInt8 :: (seen ++ front)) (a :: b :: rest) := by
      rw [decodeFrom]
      split
      · rename_i high low first second
        exact absurd second (odd high low first)
      · rfl
    rw [literal]
    exact ih
  | case4 seen c rest solid ih =>
    rw [decodeFrom.eq_3 _ _ _ solid, ← List.append_assoc]
    exact ih

theorem decodeFrom_eq (seen : Bytes) (cs : List Char) :
    decodeFrom seen cs = seen.reverse ++ decode cs :=
  decodeFrom_append [] seen cs

@[simp] theorem decode_nil : decode [] = [] := by
  simp [decode, decodeFrom]

theorem decode_cons {c : Char} (solid : c ≠ '%') (rest : List Char) :
    decode (c :: rest) = String.utf8EncodeChar c ++ decode rest := by
  unfold decode
  rw [decodeFrom.eq_3 _ _ _ fun _ _ _ same _ => solid same, List.append_nil, decodeFrom_eq,
    List.reverse_reverse]
  rfl

theorem decode_escapeByte (b : UInt8) (rest : List Char) :
    decode (escapeByte b ++ rest) = b :: decode rest := by
  have small : b.toNat < 256 := b.toNat_lt
  have high := hexValue_hexDigit ⟨b.toNat / 16, by omega⟩
  have low := hexValue_hexDigit ⟨b.toNat % 16, by omega⟩
  have whole : 16 * (b.toNat / 16) + b.toNat % 16 = b.toNat := by omega
  change decodeFrom [] ('%' :: hexDigit (b.toNat / 16) :: hexDigit (b.toNat % 16) :: rest) = _
  simp only at high low
  rw [decodeFrom, high, low]
  simp only [whole, UInt8.ofNat_toNat]
  exact decodeFrom_eq [b] rest

theorem plain_octet : ∀ n : Fin 256, isPlain (Char.ofNat n.val) = true →
    String.utf8EncodeChar (Char.ofNat n.val) = [UInt8.ofNat n.val] ∧ Char.ofNat n.val ≠ '%' := by
  decide +kernel

theorem escape_cons (b : UInt8) (bytes : Bytes) :
    escape (b :: bytes) = (if isPlain (Char.ofNat b.toNat) then
      [Char.ofNat b.toNat] else escapeByte b) ++ escape bytes :=
  List.flatMap_cons

theorem decode_escape (bytes : Bytes) : decode (escape bytes) = bytes := by
  induction bytes with
  | nil => exact decode_nil
  | cons b bytes ih =>
    rw [escape_cons]
    by_cases plain : isPlain (Char.ofNat b.toNat) = true
    · obtain ⟨octet, solid⟩ := plain_octet ⟨b.toNat, b.toNat_lt⟩ plain
      have octet : String.utf8EncodeChar (Char.ofNat b.toNat) = [UInt8.ofNat b.toNat] := octet
      rw [if_pos plain, List.singleton_append, decode_cons solid, octet, ih, UInt8.ofNat_toNat]
      rfl
    · rw [if_neg plain, decode_escapeByte, ih]

theorem decode_of_solid {cs : List Char} (solid : ∀ c ∈ cs, c ≠ '%') :
    decode cs = utf8Bytes (spell cs) := by
  rw [utf8Bytes_spell]
  induction cs with
  | nil => exact decode_nil
  | cons c cs ih =>
    obtain ⟨first, rest⟩ := List.forall_mem_cons.mp solid
    rw [decode_cons first, ih rest]
    rfl

/-! ## Escaped paths -/

def pathOf? (reference : String) : Option (List Char) :=
  component? (upTo (· == '?') (upTo (· == '#') reference.toList))

/-- What an escaped path is made of: the path of a reference without control characters, whose
escapes are all valid. It is kept as it is, or its octets, which are UTF-8, are escaped anew. -/
theorem escaped_cases {reference uri : String} (escaped : escaped? reference = some uri) :
    reference.toList.any isControl = false ∧
      ∃ raw, pathOf? reference = some raw ∧ escapesValid raw = true ∧
        ((raw.all isEscapedForm = true ∧ uri.toList = raw) ∨
          (raw.all isEscapedForm = false ∧ uri.toList = escape (decode raw))) := by
  unfold escaped? at escaped
  split at escaped
  · cases escaped
  rename_i printable
  obtain ⟨raw, found, escaped⟩ := Option.bind_eq_some_iff.mp escaped
  refine ⟨Bool.eq_false_iff.mpr printable, raw, found, ?_⟩
  split at escaped
  · cases escaped
  rename_i valid
  refine ⟨by simpa using valid, ?_⟩
  split at escaped
  · rename_i form
    cases escaped
    exact .inl ⟨form, String.toList_ofList⟩
  · rename_i form
    obtain ⟨text, read, same⟩ := Option.bind_eq_some_iff.mp escaped
    cases same
    rw [utf8Bytes_of_utf8Text? read]
    exact .inr ⟨Bool.eq_false_iff.mpr form, String.toList_ofList⟩

theorem escaped?_of_path {reference : String} {raw : List Char}
    (printable : reference.toList.any isControl = false) (path : pathOf? reference = some raw) :
    escaped? reference =
      if escapesValid raw = false then none
      else if raw.all isEscapedForm = true then some (spell raw)
      else (utf8Text? (decode raw)).map fun text => spell (escape (utf8Bytes text)) := by
  unfold pathOf? at path
  unfold escaped?
  rw [printable, path, Option.map_eq_bind]
  simp only [Bool.false_eq_true, if_false, Option.bind_eq_bind, Option.bind_some,
    Bool.not_eq_true']
  rfl

theorem decode_of_escaped {reference uri : String} (escaped : escaped? reference = some uri) :
    ∃ raw, pathOf? reference = some raw ∧ decode uri.toList = decode raw := by
  obtain ⟨_, raw, found, _, ⟨_, kept⟩ | ⟨_, anew⟩⟩ := escaped_cases escaped
  · exact ⟨raw, found, by rw [kept]⟩
  · exact ⟨raw, found, by rw [anew, decode_escape]⟩

/-- Names that are the paths of references as they stand: without query, fragment and escapes, and
without a colon before the first slash. -/
structure IsLiteral (name : String) : Prop where
  plain : ∀ c ∈ name.toList, c ≠ '#' ∧ c ≠ '?' ∧ c ≠ '%'
  relative : ':' ∉ upTo (· == '/') name.toList

theorem isLiteral_of_all {name : String}
    (plain : name.toList.all (fun c => c != '#' && c != '?' && c != '%') = true)
    (relative : ':' ∉ upTo (· == '/') name.toList) : IsLiteral name := by
  refine ⟨fun c listed => ?_, relative⟩
  have each := List.all_eq_true.mp plain c listed
  simpa [and_assoc] using each

theorem upTo_eq_self {stop : Char → Bool} {cs : List Char} (none : ∀ c ∈ cs, stop c = false) :
    upTo stop cs = cs := by
  have kept : (cs ++ []).takeWhile (! stop ·) = cs ++ [].takeWhile (! stop ·) :=
    List.takeWhile_append_of_pos fun c listed => by simp [none c listed]
  simpa [upTo] using kept

theorem afterScheme?_eq_none {cs : List Char} (relative : ':' ∉ upTo (· == '/') cs) :
    afterScheme? cs = none := by
  unfold afterScheme?
  split
  · rename_i rest found
    exfalso
    apply relative
    have whole : cs.takeWhile isSchemeChar ++ cs.dropWhile isSchemeChar = cs :=
      List.takeWhile_append_dropWhile
    have solid : ∀ c ∈ cs.takeWhile isSchemeChar, (!(c == '/')) = true := by
      intro c listed
      have kind : isSchemeChar c = true := List.all_eq_true.mp List.all_takeWhile c listed
      by_cases slash : c = '/'
      · rw [slash] at kind
        exact absurd kind (by decide)
      · simpa using slash
    rw [found] at whole
    unfold upTo
    rw [← whole, List.takeWhile_append_of_pos solid]
    apply List.mem_append_right
    rw [List.takeWhile_cons_of_pos (by decide)]
    exact List.mem_cons_self
  · rfl

theorem pathOf?_of_literal {name : String} (literal : IsLiteral name) :
    pathOf? name = some name.toList := by
  have fragment : upTo (· == '#') name.toList = name.toList := by
    apply upTo_eq_self
    intro c listed
    simpa using (literal.plain c listed).1
  have query : upTo (· == '?') name.toList = name.toList := by
    apply upTo_eq_self
    intro c listed
    simpa using (literal.plain c listed).2.1
  have colon : (upTo (· == '/') name.toList).contains ':' = false := by
    simpa using literal.relative
  unfold pathOf? component?
  rw [fragment, query, afterScheme?_eq_none literal.relative]
  simp only [colon]
  rfl

theorem eq_of_escaped {first second uri : String} (literal : IsLiteral first)
    (other : IsLiteral second) (here : escaped? first = some uri)
    (there : escaped? second = some uri) : first = second := by
  have octets : ∀ {name : String}, IsLiteral name → escaped? name = some uri →
      decode uri.toList = utf8Bytes name := by
    intro name literal escaped
    obtain ⟨raw, path, same⟩ := decode_of_escaped escaped
    rw [pathOf?_of_literal literal] at path
    cases path
    rw [same, decode_of_solid fun c listed => (literal.plain c listed).2.2, spell,
      String.ofList_toList]
  have same : utf8Bytes first = utf8Bytes second :=
    (octets literal here).symm.trans (octets other there)
  have read := congrArg utf8Text? same
  rw [utf8Text?_utf8Bytes, utf8Text?_utf8Bytes] at read
  exact Option.some.inj read

end Bindery.UriPath
