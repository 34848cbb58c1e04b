import Bindery.Proofs.Text.Lossy
import Bindery.Proofs.Zip.Index
import Bindery.Zip.File

/-! Archives as files. What is written of an archive is read back as that archive, member by member,
as long as its numbers fit into their places: names below 64 KiB, members that fill less than 4 GiB
together, and fewer than 65535 of them. -/
namespace Bindery.Zip

/-! ## Parts of a file -/

def StandsAt (file part : Bytes) (position : Nat) : Prop :=
  ∃ front back, file = front ++ (part ++ back) ∧ front.length = position

section Parts

variable {file part first second : Bytes} {position width : Nat}

theorem standsAt_append : StandsAt file (first ++ second) position ↔
    StandsAt file first position ∧ StandsAt file second (position + first.length) := by
  constructor
  · rintro ⟨front, back, rfl, rfl⟩
    exact ⟨⟨front, second ++ back, by simp, rfl⟩, front ++ first, back, by simp, by simp⟩
  · rintro ⟨⟨front, back, rfl, rfl⟩, front', back', parts, longer⟩
    have lengths : (front ++ first).length = front'.length := by simp [longer]
    have same : (front ++ first) ++ back = front' ++ (second ++ back') := by
      rw [← parts, List.append_assoc]
    obtain ⟨-, rfl⟩ := List.append_inj same lengths
    exact ⟨front, back', by simp, rfl⟩

theorem StandsAt.drop (stands : StandsAt file part position) :
    (file.drop position).take part.length = part := by
  obtain ⟨front, back, rfl, rfl⟩ := stands
  rw [List.drop_left, List.take_left]

theorem StandsAt.slice? (stands : StandsAt file part position) (long : part.length = width) :
    slice? file position width = some part := by
  subst long
  rw [Zip.slice?, stands.drop]
  exact if_pos rfl

theorem StandsAt.record? (stands : StandsAt file part position) (long : part.length = width)
    {signature : Bytes} (begins : signature <+: part) :
    record? signature file position width = some part := by
  rw [Zip.record?, stands.slice? long, Option.filter_some,
    if_pos (List.isPrefixOf_iff_prefix.mpr begins)]

theorem slice?_beyond (some : 0 < width) (beyond : file.length < position + width) :
    slice? file position width = none := by
  have short : ((file.drop position).take width).length ≠ width := by
    rw [List.length_take, List.length_drop]
    omega
  exact if_neg short

end Parts

/-! ## Records of numbers -/

def form (fields : List (Nat × Nat)) : Bytes := fields.flatMap fun field => octets field.1 field.2

def span (widths : List Nat) : Nat := widths.foldr (· + ·) 0

theorem length_form (fields : List (Nat × Nat)) :
    (form fields).length = span (fields.map Prod.fst) := by
  induction fields with
  | nil => rfl
  | cons field fields ih =>
    rw [form, List.flatMap_cons, List.length_append, length_octets]
    exact congrArg (field.1 + ·) ih

theorem fieldAt_form {fields : List (Nat × Nat)} {widths : List Nat}
    (wide : fields.map Prod.fst = widths) (i : Nat) {width n position : Nat}
    (there : fields[i]? = some (width, n)) (fits : n < Nat.pow 256 width)
    (place : span (widths.take i) = position) : fieldAt (form fields) position width = n := by
  obtain ⟨inside, same⟩ := List.getElem?_eq_some_iff.mp there
  have parts : form fields =
      form (fields.take i) ++ (octets width n ++ form (fields.drop (i + 1))) := by
    have cut := List.take_append_drop i fields
    rw [List.drop_eq_getElem_cons inside, same] at cut
    nth_rewrite 1 [← cut]
    simp [form]
  have front : (form (fields.take i)).length = position := by
    rw [length_form, List.map_take, wide, place]
  rw [fieldAt, parts, List.drop_left' front, List.take_left' (length_octets width n),
    littleEndian_octets fits]

/-! ## Headers -/

/-- A member whose numbers fit into headers. -/
structure Member.Fits (m : Member) : Prop where
  name : (utf8Bytes m.name).length < 0x10000
  code : m.packing.code < 0x10000
  packing : Packing.ofCode m.packing.code = m.packing
  unmarked : m.packing.code ≠ Header.encryptedCode
  size : m.size < Nat.pow 256 8
  whole : m.packed.length = m.packedSize
  plain : m.encrypted = false

theorem Method.code_known (method : Method) : (Packing.known method).code < 0x10000 ∧
    Packing.ofCode (Packing.known method).code = .known method ∧
    (Packing.known method).code ≠ Header.encryptedCode := by
  cases method <;> decide

theorem Member.fits_ofContent {name : String} {content : Bytes}
    (short : (utf8Bytes name).length < 0x10000) (size : content.length < Nat.pow 256 8)
    (method : Method) : (ofContent name method content).Fits where
  name := short
  code := method.code_known.1
  packing := method.code_known.2.1
  unmarked := method.code_known.2.2
  size := size
  whole := rfl
  plain := rfl

def headerNumbers (m : Member) (extra : Bytes) : List (Nat × Nat) :=
  [(2, neededVersion), (2, utf8Flag), (2, m.packing.code), (2, 0), (2, firstDay),
    (4, m.checksum.toNat), (4, min m.packedSize wideMark), (4, min m.size wideMark),
    (2, (utf8Bytes m.name).length), (2, extra.length)]

def localNumbers (m : Member) : List (Nat × Nat) :=
  (4, 0x04034B50) :: headerNumbers m (wideField [m.size, m.packedSize])

def centralNumbers (m : Member) (position : Nat) : List (Nat × Nat) :=
  (4, 0x02014B50) :: (2, madeBy) ::
    headerNumbers m (wideField [m.size, m.packedSize, position]) ++
      [(2, 0), (2, 0), (2, 0), (4, permissions), (4, min position wideMark)]

theorem widths_local (m : Member) :
    (localNumbers m).map Prod.fst = [4, 2, 2, 2, 2, 2, 4, 4, 4, 2, 2] := rfl

theorem widths_central (m : Member) (position : Nat) :
    (centralNumbers m position).map Prod.fst =
      [4, 2, 2, 2, 2, 2, 2, 4, 4, 4, 2, 2, 2, 2, 2, 4, 4] := rfl

theorem headerFields_eq (m : Member) (extra : Bytes) :
    headerFields m extra = form (headerNumbers m extra) := by
  simp [headerFields, headerNumbers, form, narrow]

theorem localForm_eq (m : Member) : localForm m = form (localNumbers m) ++
    (utf8Bytes m.name ++ (wideField [m.size, m.packedSize] ++ m.packed)) := by
  have signature : octets 4 0x04034B50 = localSignature := by decide
  simp only [localForm, headerFields_eq, localNumbers, form, List.flatMap_cons, signature,
    List.append_assoc]

theorem centralForm_eq (m : Member) (position : Nat) :
    centralForm m position = form (centralNumbers m position) ++
      (utf8Bytes m.name ++ wideField [m.size, m.packedSize, position]) := by
  have signature : octets 4 0x02014B50 = centralSignature := by decide
  simp only [centralForm, headerFields_eq, centralNumbers, form, List.flatMap_cons, signature,
    List.append_assoc, List.cons_append, List.flatMap_append, List.flatMap_nil, List.append_nil,
    narrow]

/-! ## Extra fields -/

theorem run_nextOr (fault : Error) {part rest : Bytes} {width : Nat} (long : part.length = width) :
    (Reading.nextOr fault width).run (part ++ rest) = .ok (part, rest) := by
  subst long
  have enough : ¬ (part ++ rest).length < part.length := by simp
  change (if _ then _ else _) = _
  rw [if_neg enough, List.take_left, List.drop_left]

theorem run_number {width n : Nat} (fits : n < Nat.pow 256 width) (rest : Bytes) :
    (Reading.number width).run (octets width n ++ rest) = .ok (n, rest) := by
  rw [Reading.number, Reading.next, StateT.run_map, run_nextOr _ (length_octets width n)]
  exact congrArg (fun n => Except.ok (n, rest)) (littleEndian_octets fits)

namespace Header

theorem run_wideNumbers {h : Header} {size : Nat} (mark : h.size = wideMark)
    (packed : h.packedSize ≠ wideMark) (offset : h.offset ≠ wideMark)
    (fits : size < Nat.pow 256 8) :
    (h.wideNumbers 8).run (octets 8 size) = .ok ({ h with size }, []) := by
  have whole : (Reading.nextOr shortField 8).run (octets 8 size) =
      .ok (octets 8 size, []) := by
    simpa using @run_nextOr shortField (octets 8 size) [] 8 (length_octets 8 size)
  have wide : (wideNumber false h.size).run (octets 8 size) = .ok ((size, 8), []) := by
    rw [wideNumber, mark, Bool.false_or, if_pos (decide_eq_true rfl), StateT.run_bind,
      bind_of_eq_ok whole, littleEndian_octets fits]
    rfl
  have narrow {n : Nat} (other : n ≠ wideMark) :
      (wideNumber false n).run [] = .ok ((n, 0), []) := by
    rw [wideNumber, if_neg (by simpa using other)]
    rfl
  have few : ¬ 24 ≤ 8 := by decide
  rw [wideNumbers, decide_eq_false few, StateT.run_bind, bind_of_eq_ok wide,
    StateT.run_bind, bind_of_eq_ok (narrow packed), StateT.run_bind, bind_of_eq_ok (narrow offset)]
  rfl

theorem extend_field {h h' : Header} {kind length fuel : Nat} {inside rest : Bytes}
    (known : kind < Nat.pow 256 2) (short : length < Nat.pow 256 2)
    (read : (h.field kind length).run inside = .ok (h', rest)) :
    h.extend (fuel + 1) (octets 2 kind ++ (octets 2 length ++ inside)) = h'.extend fuel rest := by
  have enough : ¬ (octets 2 kind ++ (octets 2 length ++ inside)).length < 2 := by
    rw [List.length_append, length_octets]
    omega
  rw [extend, if_neg enough]
  simp only [StateT.run_bind]
  rw [bind_of_eq_ok (run_number known _), bind_of_eq_ok (run_number short _), bind_of_eq_ok read]

theorem extend_nil (h : Header) (fuel : Nat) : h.extend fuel [] = .ok h := by
  cases fuel <;> rfl

theorem extend_wideField {h : Header} {size : Nat} (place : h.size = min size wideMark)
    (short : h.packedSize < wideMark) (near : h.offset < wideMark) (fits : size < Nat.pow 256 8) :
    h.extend (wideField [size, h.packedSize, h.offset]).length
      (wideField [size, h.packedSize, h.offset]) = .ok { h with size } := by
  by_cases wide : wideMark ≤ size
  · have listed : wideField [size, h.packedSize, h.offset] =
        octets 2 1 ++ (octets 2 8 ++ octets 8 size) := by
      simp [wideField, wide, Nat.not_le_of_lt short, Nat.not_le_of_lt near]
    have mark : h.size = wideMark := place.trans (Nat.min_eq_right wide)
    have read : (h.field 1 8).run (octets 8 size) = .ok ({ h with size }, []) :=
      run_wideNumbers mark (Nat.ne_of_lt short) (Nat.ne_of_lt near) fits
    have length : (octets 2 1 ++ (octets 2 8 ++ octets 8 size)).length = 11 + 1 := by simp
    rw [listed, length]
    exact (extend_field (by decide) (by decide) read).trans (extend_nil _ _)
  · have unlisted : wideField [size, h.packedSize, h.offset] = [] := by
      simp [wideField, wide, Nat.not_le_of_lt short, Nat.not_le_of_lt near]
    have same : h.size = size := place.trans (Nat.min_eq_left (Nat.le_of_not_le wide))
    rw [unlisted, ← same]
    exact extend_nil h 0

def ofMember (m : Member) (position : Nat) : Header where
  rawName := utf8Bytes m.name
  name := m.name
  comment := ""
  code := m.packing.code
  checksum := m.checksum
  size := m.size
  packedSize := m.packedSize
  offset := position
  encrypted := false

theorem member_ofMember {m : Member} (fits : m.Fits) (position : Nat) :
    (ofMember m position).member m.packed = m := by
  obtain ⟨name, packing, checksum, size, packedSize, packed, encrypted⟩ := m
  obtain rfl : encrypted = false := fits.plain
  rw [member, ofMember, fits.packing]
  rfl

theorem ofRecord_central {m : Member} {position : Nat} (fits : m.Fits)
    (short : m.packedSize < wideMark) (near : position < wideMark) :
    ofRecord (form (centralNumbers m position)) (utf8Bytes m.name)
      (wideField [m.size, m.packedSize, position]) [] = .ok (ofMember m position) := by
  have narrow (n : Nat) : min n wideMark < Nat.pow 256 4 :=
    Nat.lt_of_le_of_lt (Nat.min_le_right n wideMark) (by decide)
  have widths := widths_central m position
  have flags : fieldAt (form (centralNumbers m position)) 8 2 = utf8Flag :=
    fieldAt_form widths 3 rfl (by decide) (by decide)
  have code : fieldAt (form (centralNumbers m position)) 10 2 = m.packing.code :=
    fieldAt_form widths 4 rfl fits.code (by decide)
  have checksum : fieldAt (form (centralNumbers m position)) 16 4 = m.checksum.toNat :=
    fieldAt_form widths 7 rfl m.checksum.toNat_lt (by decide)
  have packed : fieldAt (form (centralNumbers m position)) 20 4 = min m.packedSize wideMark :=
    fieldAt_form widths 8 rfl (narrow _) (by decide)
  have size : fieldAt (form (centralNumbers m position)) 24 4 = min m.size wideMark :=
    fieldAt_form widths 9 rfl (narrow _) (by decide)
  have offset : fieldAt (form (centralNumbers m position)) 42 4 = min position wideMark :=
    fieldAt_form widths 16 rfl (narrow _) (by decide)
  have utf8 : utf8Flag.testBit 11 = true := by decide
  have bare : utf8Flag.testBit 0 = false := by decide
  have named : nameOf true (utf8Bytes m.name) = m.name := Lossy.decode_utf8Bytes m.name
  have silent : nameOf true [] = "" := rfl
  let written : Header := { ofMember m position with size := min m.size wideMark }
  have extended := @extend_wideField written m.size rfl short near fits.size
  have ordinary : ¬ (m.packing.code = encryptedCode ∧ false = false) := fun same =>
    fits.unmarked same.1
  simp only [ofRecord, flags, code, checksum, packed, size, offset, utf8, bare, named, silent,
    UInt32.ofNat_toNat, Nat.min_eq_left (Nat.le_of_lt short), Nat.min_eq_left (Nat.le_of_lt near)]
  refine (bind_of_eq_ok extended _).trans ?_
  exact if_neg ordinary

end Header

/-! ## Members -/

theorem length_wideField_lt {numbers : List Nat} (few : numbers.length ≤ 3) :
    (wideField numbers).length < Nat.pow 256 2 := by
  have fewer := Nat.le_trans (List.length_filter_le (wideMark ≤ ·) numbers) few
  have eights (wide : List Nat) : (wide.flatMap (octets 8)).length = 8 * wide.length := by
    simp [List.length_flatMap, Nat.mul_comm]
  unfold wideField
  split
  · decide
  · rename_i wide _
    simp only [List.length_append, length_octets, eights]
    exact Nat.lt_of_le_of_lt (Nat.add_le_add_left (Nat.mul_le_mul_left 8 fewer) 4) (by decide)

theorem exists_dataStart {file : Bytes} {m : Member} {offset : Nat} (fits : m.Fits)
    (stands : StandsAt file (localForm m) offset) :
    ∃ start, dataStart? file offset = some start ∧ offset < start ∧
      start + m.packed.length = offset + (localForm m).length ∧ StandsAt file m.packed start := by
  have widths := widths_local m
  have long : (form (localNumbers m)).length = 30 := by
    rw [length_form, widths]
    decide
  have begins : localSignature <+: form (localNumbers m) := ⟨_, rfl⟩
  have name : fieldAt (form (localNumbers m)) 26 2 = (utf8Bytes m.name).length :=
    fieldAt_form widths 9 rfl fits.name (by decide)
  have extra : fieldAt (form (localNumbers m)) 28 2 = (wideField [m.size, m.packedSize]).length :=
    fieldAt_form widths 10 rfl (length_wideField_lt (Nat.le_succ 2)) (by decide)
  have whole : (localForm m).length = 30 + ((utf8Bytes m.name).length +
      ((wideField [m.size, m.packedSize]).length + m.packed.length)) := by
    rw [localForm_eq, List.length_append, long, List.length_append, List.length_append]
  rw [localForm_eq, standsAt_append, standsAt_append, standsAt_append, long] at stands
  obtain ⟨record, -, -, packed⟩ := stands
  refine ⟨_, ?_, ?_, ?_, packed⟩
  · rw [dataStart?, record.record? long begins, Option.bind_eq_bind, Option.bind_some, name, extra]
    rfl
  · omega
  · omega

theorem slice?_zero (file : Bytes) (position : Nat) : slice? file position 0 = some [] := by
  rw [slice?, List.take_zero]
  rfl

theorem DirectoryPlace.memberAt_of_stands {file : Bytes} {place : DirectoryPlace} {m : Member}
    {position offset : Nat} (fits : m.Fits) (base : place.base = 0)
    (near : place.start < wideMark) (header : StandsAt file (centralForm m offset) position)
    (here : StandsAt file (localForm m) offset)
    (before : offset + (localForm m).length ≤ place.start) :
    place.memberAt file position = .ok (m, position + (centralForm m offset).length) := by
  have widths := widths_central m offset
  have long : (form (centralNumbers m offset)).length = 46 := by
    rw [length_form, widths]
    decide
  have begins : centralSignature <+: form (centralNumbers m offset) := ⟨_, rfl⟩
  have nameLength : fieldAt (form (centralNumbers m offset)) 28 2 = (utf8Bytes m.name).length :=
    fieldAt_form widths 10 rfl fits.name (by decide)
  have extraLength : fieldAt (form (centralNumbers m offset)) 30 2 =
      (wideField [m.size, m.packedSize, offset]).length :=
    fieldAt_form widths 11 rfl (length_wideField_lt (Nat.le_refl 3)) (by decide)
  have commentLength : fieldAt (form (centralNumbers m offset)) 32 2 = 0 :=
    fieldAt_form widths 12 rfl (by decide) (by decide)
  obtain ⟨start, found, behind, within, packed⟩ := exists_dataStart fits here
  have short : m.packedSize < wideMark := by
    rw [← fits.whole]
    omega
  have said := Header.ofRecord_central fits short (by omega : offset < wideMark)
  have inFront : ¬ (place.start ≤ offset ∨ place.start < start) := by omega
  have taken : (file.drop start).take m.packedSize = m.packed := by
    rw [← fits.whole, packed.drop]
  have whole : (centralForm m offset).length = 46 + ((utf8Bytes m.name).length +
      (wideField [m.size, m.packedSize, offset]).length) := by
    rw [centralForm_eq, List.length_append, long, List.length_append]
  rw [centralForm_eq, standsAt_append, standsAt_append, long] at header
  obtain ⟨record, name, extra⟩ := header
  have read : record? centralSignature file position 46 = some (form (centralNumbers m offset)) :=
    record.record? long begins
  have pass {α β : Type} (a : α) (next : α → Result β) :
      ((.ok a : Result α) >>= next) = next a := rfl
  simp only [memberAt, read, orUnsound, pass, nameLength, extraLength, commentLength, Nat.add_zero,
    Nat.add_sub_cancel_left, name.slice? rfl, extra.slice? rfl, slice?_zero, said, base,
    Nat.zero_add, Header.ofMember, found, if_neg inFront, taken]
  rw [whole, ← Nat.add_assoc, ← Nat.add_assoc]
  exact congrArg (fun found => Except.ok (found, _)) (Header.member_ofMember fits offset)

/-! ## Directories -/

theorem Archive.put_of_fresh {archive : Archive} {m : Member}
    (fresh : m.name ∉ archive.map Member.name) : archive.put m = archive ++ [m] := by
  induction archive with
  | nil => rfl
  | cons old archive ih =>
    obtain ⟨here, later⟩ := not_or.mp (mt List.mem_cons.mpr fresh)
    rw [put, if_neg fun same => here same.symm, ih later]
    rfl

theorem DirectoryPlace.members_of_stands {file : Bytes} {place : DirectoryPlace}
    {archive before : Archive} {position offset : Nat} (fits : ∀ m ∈ archive, m.Fits)
    (distinct : ((before ++ archive).map Member.name).Nodup) (base : place.base = 0)
    (near : place.start < wideMark)
    (headers : StandsAt file (directoryFrom offset archive) position)
    (here : StandsAt file (archive.flatMap localForm) offset)
    (inFront : offset + (archive.flatMap localForm).length ≤ place.start) :
    place.members file archive.length position before = .ok (before ++ archive) := by
  induction archive generalizing before position offset with
  | nil =>
    rw [List.append_nil]
    rfl
  | cons m archive ih =>
    obtain ⟨good, others⟩ := List.forall_mem_cons.mp fits
    rw [directoryFrom, standsAt_append] at headers
    rw [List.flatMap_cons, standsAt_append] at here
    rw [List.flatMap_cons, List.length_append] at inFront
    have fresh : m.name ∉ before.map Member.name := by
      rw [List.map_append, List.nodup_append] at distinct
      exact fun member => distinct.2.2 m.name member m.name List.mem_cons_self rfl
    have read := place.memberAt_of_stands good base near headers.1 here.1 (by omega)
    have rest : before ++ m :: archive = before ++ [m] ++ archive := by simp
    rw [List.length_cons, members, bind_of_eq_ok read]
    simp only [Archive.put_of_fresh fresh]
    rw [rest]
    exact ih others (rest ▸ distinct) headers.2 here.2 (by omega)

/-! ## Files -/

/-- An archive whose numbers fit into a file without wide records at its end. -/
structure Archive.Fits (archive : Archive) : Prop where
  members : ∀ m ∈ archive, m.Fits
  count : archive.length < 0xFFFF
  near : (archive.flatMap localForm).length < wideMark

def endNumbers (count length position : Nat) : List (Nat × Nat) :=
  [(4, 0x06054B50), (2, 0), (2, 0), (2, count), (2, count), (4, length), (4, position), (2, 0)]

theorem endForm_eq (count length position : Nat) :
    endForm count length position = form (endNumbers count length position) := by
  have signature : octets 4 0x06054B50 = endSignature := by decide
  simp only [endForm, endNumbers, form, List.flatMap_cons, signature, List.append_assoc,
    List.flatMap_nil, List.append_nil]

theorem endForm_begins (count length position : Nat) :
    endSignature <+: endForm count length position := by
  rw [endForm_eq]
  exact ⟨_, rfl⟩

theorem length_endForm (count length position : Nat) :
    (endForm count length position).length = 22 := by
  rw [endForm_eq, length_form]
  rfl

theorem EndRecord.read?_of_stands {file : Bytes} {count length offset position : Nat}
    (few : count < 0xFFFF) (near : offset < wideMark)
    (stands : StandsAt file (endForm count length offset) position) :
    EndRecord.read? file position = some
      { position, disk := 0, directoryDisk := 0, countHere := count, count,
        directoryOffset := offset } := by
  have widths : (endNumbers count length offset).map Prod.fst = [4, 2, 2, 2, 2, 4, 4, 2] := rfl
  have record := stands.record? (length_endForm _ _ _) (endForm_begins _ _ _)
  have small : count < Nat.pow 256 2 := Nat.lt_trans few (by decide)
  have disk : fieldAt (form (endNumbers count length offset)) 4 2 = 0 :=
    fieldAt_form widths 1 rfl (by decide) (by decide)
  have directoryDisk : fieldAt (form (endNumbers count length offset)) 6 2 = 0 :=
    fieldAt_form widths 2 rfl (by decide) (by decide)
  have countHere : fieldAt (form (endNumbers count length offset)) 8 2 = count :=
    fieldAt_form widths 3 rfl small (by decide)
  have all : fieldAt (form (endNumbers count length offset)) 10 2 = count :=
    fieldAt_form widths 4 rfl small (by decide)
  have start : fieldAt (form (endNumbers count length offset)) 16 4 = offset :=
    fieldAt_form widths 6 rfl (Nat.lt_trans near (by decide)) (by decide)
  have comment : fieldAt (form (endNumbers count length offset)) 20 2 = 0 :=
    fieldAt_form widths 7 rfl (by decide) (by decide)
  rw [endForm_eq] at record
  simp only [read?, record, Option.bind_eq_bind, Option.bind_some, disk,
    directoryDisk, countHere, all, start, comment, slice?_zero]
  rfl

theorem directoryFrom_begins {archive : Archive} (some : archive ≠ []) (offset : Nat) :
    centralSignature <+: directoryFrom offset archive := by
  cases archive with
  | nil => exact absurd rfl some
  | cons m archive => exact ⟨_, rfl⟩

theorem EndRecord.directoryStart?_of_begins {members directory back : Bytes} {r : EndRecord}
    (position : r.position = (members ++ directory).length)
    (offset : r.directoryOffset = members.length) (begins : centralSignature <+: directory) :
    r.directoryStart? (members ++ (directory ++ back)) = some members.length := by
  have filled : 4 ≤ directory.length := begins.length_le
  have between : ((members ++ (directory ++ back)).take r.position).drop members.length =
      directory := by
    rw [position, ← List.append_assoc, List.take_left, List.drop_left]
  have room : ¬ r.position ≤ members.length := by
    rw [position, List.length_append]
    omega
  rw [directoryStart?, offset, if_neg room, between]
  simp only [getLast?_occurrences (by decide) begins]
  rfl

def Archive.directoryPlace (archive : Archive) : DirectoryPlace where
  base := 0
  start := (archive.flatMap localForm).length
  count := archive.length
  isSound := true

theorem DirectoryPlace.at?_toFile {archive : Archive} (fits : archive.Fits) :
    at? archive.toFile (archive.flatMap localForm ++ directoryFrom 0 archive).length =
      some archive.directoryPlace := by
  rw [Archive.directoryPlace]
  generalize written : archive.flatMap localForm = members
  have near : members.length < wideMark := written ▸ fits.near
  have file : archive.toFile = members ++ (directoryFrom 0 archive ++
      endForm archive.length (directoryFrom 0 archive).length members.length) := by
    simp [Archive.toFile, written]
  have stands : StandsAt archive.toFile
      (endForm archive.length (directoryFrom 0 archive).length members.length)
      (members ++ directoryFrom 0 archive).length :=
    ⟨members ++ directoryFrom 0 archive, [], by simp [file], rfl⟩
  have narrow (position disk directoryDisk countHere : Nat) : EndRecord.mayBeWide
      { position, disk, directoryDisk, countHere, count := archive.length,
        directoryOffset := members.length } = false := by
    simp [EndRecord.mayBeWide, Nat.ne_of_lt fits.count, Nat.ne_of_lt near]
  rw [at?, EndRecord.read?_of_stands fits.count near stands]
  simp only [Option.bind_eq_bind, Option.bind_some, narrow, Bool.false_eq_true, if_false,
    EndRecord.place?]
  by_cases empty : archive = []
  · subst empty
    subst written
    rfl
  · have some : archive.length ≠ 0 := mt List.length_eq_zero_iff.mp empty
    rw [if_neg some, file, EndRecord.directoryStart?_of_begins rfl rfl
      (directoryFrom_begins empty 0)]
    simp

theorem DirectoryPlace.archive_toFile {archive : Archive} (fits : archive.Fits)
    (distinct : (archive.map Member.name).Nodup) :
    archive.directoryPlace.archive archive.toFile = .ok archive := by
  have sound : archive.directoryPlace.isSound = true := rfl
  have headers : StandsAt archive.toFile (directoryFrom 0 archive)
      (archive.flatMap localForm).length :=
    ⟨archive.flatMap localForm, _, List.append_assoc _ _ _, rfl⟩
  have here : StandsAt archive.toFile (archive.flatMap localForm) 0 :=
    ⟨[], _, List.append_assoc _ _ _, rfl⟩
  rw [DirectoryPlace.archive, if_pos sound]
  exact members_of_stands fits.members distinct rfl fits.near headers here
    (Nat.le_of_eq (Nat.zero_add _))

theorem DirectoryPlace.at?_beyond {file : Bytes} {position : Nat}
    (beyond : file.length < position + 22) : at? file position = none := by
  have none : record? endSignature file position 22 = none := by
    rw [record?, slice?_beyond (by decide) beyond]
    rfl
  rw [at?, EndRecord.read?, none]
  rfl

theorem Archive.ofEndRecords_later {file : Bytes} {later rest : List Nat}
    (beyond : ∀ position ∈ later, DirectoryPlace.at? file position = none) (fault : Error) :
    ofEndRecords file fault (later ++ rest) = ofEndRecords file fault rest := by
  induction later with
  | nil => rfl
  | cons position later ih =>
    obtain ⟨here, others⟩ := List.forall_mem_cons.mp beyond
    rw [List.cons_append, ofEndRecords, here]
    exact ih others

theorem Archive.ofFile_toFile {archive : Archive} (fits : archive.Fits)
    (distinct : (archive.map Member.name).Nodup) : ofFile archive.toFile = .ok archive := by
  have filled : endSignature ≠ [] := by decide
  let front := archive.flatMap localForm ++ directoryFrom 0 archive
  let final := endForm archive.length (directoryFrom 0 archive).length
    (archive.flatMap localForm).length
  obtain ⟨back, parts⟩ : endSignature <+: final := endForm_begins _ _ _
  have long : final.length = 22 := length_endForm _ _ _
  have file : archive.toFile = front ++ (endSignature ++ back) := by
    rw [parts]
    rfl
  obtain ⟨later, earlier, found, behind⟩ := exists_occurrences filled front back
  have beyond (position : Nat) (after : position ∈ later) :
      DirectoryPlace.at? archive.toFile position = none := by
    refine DirectoryPlace.at?_beyond ?_
    have := behind position after
    rw [file, parts, List.length_append, long]
    omega
  rw [ofFile, file, found, ← file, ofEndRecords_later beyond, ofEndRecords,
    DirectoryPlace.at?_toFile fits]
  simp only [DirectoryPlace.archive_toFile fits distinct]

theorem Archive.ofFile_again {file : Bytes} {archive : Archive} (read : ofFile file = .ok archive)
    (fits : archive.Fits) : ofFile archive.toFile = .ok archive :=
  ofFile_toFile fits (nodup_ofFile read)

end Bindery.Zip
