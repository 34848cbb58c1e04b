import Bindery.Encryption.Record

/-! Which record a path has behind a change of the manifest. A record that is put changes what is
found for the paths with its cipher reference, and for no other path. -/
namespace Bindery.Encryption.Manifest

/-- The manifest with a record in the place of the first one with its cipher reference, or behind
all others if there is none. -/
def updated (manifest : Manifest) (record : Record) : Manifest :=
  match manifest.findIdx? (·.uri = record.uri) with
  | some position => manifest.set position record
  | none => manifest ++ [record]

theorem put_eq_updated (record : Record) (manifest : Manifest) :
    manifest.put record = manifest.updated record := by
  induction manifest with
  | nil => rfl
  | cons r rest ih =>
    by_cases same : r.uri = record.uri
    · simp [put, updated, List.findIdx?_cons, same]
    · rw [put, if_neg same, ih]
      unfold updated
      cases found : rest.findIdx? (·.uri = record.uri) with
      | none => simp [List.findIdx?_cons, same, found]
      | some position => simp [List.findIdx?_cons, same, found]

theorem find?_put (record : Record) (manifest : Manifest) (uri : String) :
    (manifest.put record).find? (·.uri = uri) =
      if record.uri = uri then some record else manifest.find? (·.uri = uri) := by
  induction manifest with
  | nil => by_cases here : record.uri = uri <;> simp [put, here]
  | cons r rest ih =>
    by_cases same : r.uri = record.uri
    · rw [put, if_pos same]
      by_cases here : record.uri = uri
      · simp [here]
      · simp [same, here]
    · rw [put, if_neg same]
      by_cases first : r.uri = uri
      · have other : record.uri ≠ uri := fun here => same (first.trans here.symm)
        simp [first, other]
      · simp [first, ih]

theorem recordFor?_eq_find? (manifest : Manifest) (path : String) :
    manifest.recordFor? path =
      (UriPath.escaped? path).bind fun uri => manifest.find? (·.uri = uri) := by
  unfold recordFor? position?
  cases UriPath.escaped? path with
  | none => rfl
  | some uri => exact List.find?_eq_bind_findIdx?_getElem?.symm

theorem recordFor?_put (record : Record) (manifest : Manifest) (path : String) :
    (manifest.put record).recordFor? path =
      if UriPath.escaped? path = some record.uri then some record
      else manifest.recordFor? path := by
  rw [recordFor?_eq_find?, recordFor?_eq_find?]
  cases UriPath.escaped? path with
  | none => rfl
  | some uri =>
    change (manifest.put record).find? (·.uri = uri) = _
    rw [find?_put]
    by_cases same : record.uri = uri
    · rw [if_pos same, if_pos (by rw [same])]
    · rw [if_neg same, if_neg (fun here => same (Option.some.inj here).symm)]
      rfl

theorem isSome_recordFor?_put (record : Record) {manifest : Manifest} {path : String}
    (found : (manifest.recordFor? path).isSome = true) :
    ((manifest.put record).recordFor? path).isSome = true := by
  rw [recordFor?_put]
  split
  · rfl
  · exact found

/-! ## What a put leaves alone -/

theorem filter_put (record : Record) (manifest : Manifest) :
    (manifest.put record).filter (·.uri ≠ record.uri) = manifest.filter (·.uri ≠ record.uri) := by
  induction manifest with
  | nil => simp [put]
  | cons r rest ih =>
    by_cases same : r.uri = record.uri
    · rw [put, if_pos same, List.filter_cons_of_neg (by simp), List.filter_cons_of_neg (by simp [same])]
    · rw [put, if_neg same, List.filter_cons_of_pos (by simp [same]),
        List.filter_cons_of_pos (by simp [same]), ih]

theorem length_put (record : Record) (manifest : Manifest) :
    (manifest.put record).length =
      if record.uri ∈ manifest.map Record.uri then manifest.length else manifest.length + 1 := by
  induction manifest with
  | nil => rfl
  | cons r rest ih =>
    by_cases same : r.uri = record.uri
    · simp [put, same]
    · have other : record.uri ≠ r.uri := Ne.symm same
      rw [put, if_neg same, List.length_cons, ih, List.map_cons]
      simp only [List.mem_cons, other, false_or]
      split <;> rfl

theorem mem_uris_put {record : Record} {manifest : Manifest} {uri : String}
    (listed : uri ∈ (manifest.put record).map Record.uri) :
    uri = record.uri ∨ uri ∈ manifest.map Record.uri := by
  induction manifest with
  | nil => exact .inl (List.mem_singleton.mp listed)
  | cons r rest ih =>
    by_cases same : r.uri = record.uri
    · rw [put, if_pos same, List.map_cons, ← same, ← List.map_cons] at listed
      exact .inr listed
    · rw [put, if_neg same, List.map_cons] at listed
      rcases List.mem_cons.mp listed with here | later
      · exact .inr (List.mem_cons.mpr (.inl here))
      · exact (ih later).imp_right (List.mem_cons_of_mem _)

theorem nodup_put (record : Record) {manifest : Manifest}
    (distinct : (manifest.map Record.uri).Nodup) :
    ((manifest.put record).map Record.uri).Nodup := by
  induction manifest with
  | nil => simp [put]
  | cons r rest ih =>
    by_cases same : r.uri = record.uri
    · rw [put, if_pos same, List.map_cons, ← same, ← List.map_cons]
      exact distinct
    · obtain ⟨first, others⟩ := List.nodup_cons.mp distinct
      rw [put, if_neg same, List.map_cons]
      refine List.nodup_cons.mpr ⟨fun listed => ?_, ih others⟩
      exact (mem_uris_put listed).elim same first

end Bindery.Encryption.Manifest
