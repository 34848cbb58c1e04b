import Bindery.Proofs.Json.Whole
import Bindery.Proofs.Publication.Reread

/-! Publications whose numbers are all 64-bit integers. They are read back as they are. -/
namespace Bindery

open Json (Members Value)

theorem areWhole_optional_iff (name : String) (value : Option Value) :
    Members.AreWhole (optionalMember name value) ↔ ∀ v ∈ value, v.IsWhole := by
  cases value with
  | none => simp [optionalMember, Members.AreWhole]
  | some v => simp [optionalMember, Members.AreWhole]

theorem forall_mem_map_isWhole {α : Type} {write : α → Value} {made : Option α} :
    (∀ v ∈ made.map write, v.IsWhole) ↔ ∀ a ∈ made, (write a).IsWhole := by
  cases made with
  | none => simp
  | some a => simp

theorem isWhole_of_mem {members : Members} (whole : Members.AreWhole members) {name : String}
    {v : Value} (member : (name, v) ∈ members) : v.IsWhole :=
  (Json.Members.areWhole_iff members).mp whole (name, v) member

theorem areWhole_others {members : Members} (whole : Members.AreWhole members)
    (names : List String) : Members.AreWhole (others names members) := by
  refine (Json.Members.areWhole_iff _).mpr fun member listed => ?_
  obtain ⟨v, there, _, same⟩ := mem_of_mem_others listed
  rw [same]
  exact Json.isWhole_canonical v (isWhole_of_mem whole there)

/-! ## Numbers of parts -/

theorem Protection.isWhole_toValue_iff (p : Protection) :
    p.toValue.IsWhole ↔ Members.AreWhole p.extra := by
  have texts : Members.AreWhole [("scheme", .string p.scheme), ("profile", .string p.profile),
      ("algorithm", .string p.algorithm)] := ⟨trivial, trivial, trivial, trivial⟩
  rw [toValue, Value.IsWhole, Json.Members.areWhole_append_iff, and_iff_right texts]

theorem Properties.isWhole_toValue_iff (p : Properties) :
    p.toValue.IsWhole ↔
      (∀ q ∈ p.protection, q.toValue.IsWhole) ∧ Members.AreWhole p.extra := by
  rw [toValue, Value.IsWhole, Json.Members.areWhole_append_iff, areWhole_optional_iff,
    forall_mem_map_isWhole]

theorem Link.isWhole_toValue_iff (link : Link) :
    link.toValue.IsWhole ↔
      (∀ p ∈ link.properties, p.toValue.IsWhole) ∧ Members.AreWhole link.extra := by
  have texts : Members.AreWhole (("href", Value.string link.href) :: optionalMember "type"
      (if link.type = "" then none else some (.string link.type))) := by
    refine ⟨trivial, (areWhole_optional_iff _ _).mpr fun v given => ?_⟩
    split at given
    · cases given
    · cases given
      trivial
  rw [toValue, Value.IsWhole, Json.Members.areWhole_append_iff, Json.Members.areWhole_append_iff,
    areWhole_optional_iff, forall_mem_map_isWhole, and_iff_right texts]

theorem Title.isWhole_toValue (title : Title) : title.toValue.IsWhole := by
  cases title with
  | plain text => trivial
  | localized texts =>
    exact (Json.Members.areWhole_iff _).mpr (List.forall_mem_map.mpr fun _ _ => trivial)

theorem Metadata.isWhole_toValue_iff (m : Metadata) :
    m.toValue.IsWhole ↔ Members.AreWhole m.extra := by
  rw [toValue, Value.IsWhole, Json.Members.areWhole_append_iff, areWhole_optional_iff,
    forall_mem_map_isWhole, and_iff_right fun title _ => title.isWhole_toValue]

/-- Every number in the publication is a 64-bit integer. -/
structure Publication.IsWhole (p : Publication) : Prop where
  context : ∀ v ∈ p.context, v.IsWhole
  metadata : p.metadata.toValue.IsWhole
  readingOrder : ∀ link ∈ p.readingOrder, link.toValue.IsWhole
  resources : ∀ link ∈ p.resources, link.toValue.IsWhole
  extra : Members.AreWhole p.extra

theorem isWhole_links_iff (links : List Link) :
    (Value.array (links.map Link.toValue)).IsWhole ↔ ∀ link ∈ links, link.toValue.IsWhole := by
  rw [Value.IsWhole, Json.areWhole_iff, List.forall_mem_map]

theorem Publication.isWhole_toValue_iff (p : Publication) : p.toValue.IsWhole ↔ p.IsWhole := by
  have resources : Members.AreWhole (optionalMember "resources"
      (if (p.resources.map Link.toValue).isEmpty then none
        else some (.array (p.resources.map Link.toValue)))) ↔
      ∀ link ∈ p.resources, link.toValue.IsWhole := by
    rw [areWhole_optional_iff, ← isWhole_links_iff]
    cases p.resources with
    | nil => simp [Value.IsWhole, Json.AreWhole]
    | cons link rest => simp
  have middle : Members.AreWhole [("metadata", p.metadata.toValue),
      ("readingOrder", .array (p.readingOrder.map Link.toValue))] ↔
      p.metadata.toValue.IsWhole ∧ ∀ link ∈ p.readingOrder, link.toValue.IsWhole := by
    rw [← isWhole_links_iff]
    simp [Members.AreWhole]
  rw [toValue, Value.IsWhole]
  simp only [Json.Members.areWhole_append_iff, areWhole_optional_iff, middle, resources]
  constructor
  · rintro ⟨⟨⟨context, metadata, readingOrder⟩, resources⟩, extra⟩
    exact ⟨context, metadata, readingOrder, resources, extra⟩
  · rintro ⟨context, metadata, readingOrder, resources, extra⟩
    exact ⟨⟨⟨context, metadata, readingOrder⟩, resources⟩, extra⟩

/-! ## Numbers of what is read -/

theorem Protection.isWhole_of_ofValue {v : Value} {p : Protection} (read : ofValue v = .ok p)
    (whole : v.IsWhole) : p.toValue.IsWhole := by
  obtain ⟨members, rfl, _, extra⟩ := ofValue_ok read
  exact p.isWhole_toValue_iff.mpr (extra ▸ areWhole_others whole _)

theorem Properties.isWhole_of_ofValue {v : Value} {p : Properties} (read : ofValue v = .ok p)
    (whole : v.IsWhole) : p.toValue.IsWhole := by
  obtain ⟨members, rfl, ⟨found, seen, mapped⟩, extra⟩ := ofValue_ok read
  refine p.isWhole_toValue_iff.mpr ⟨fun q given => ?_, extra ▸ areWhole_others whole _⟩
  obtain ⟨u, rfl, ran⟩ := of_mem_mapM mapped given
  exact Protection.isWhole_of_ofValue ran (isWhole_of_mem whole (mem_of_knownOption seen).1)

theorem Link.isWhole_of_ofValue {v : Value} {link : Link} (read : ofValue v = .ok link)
    (whole : v.IsWhole) : link.toValue.IsWhole := by
  obtain ⟨members, rfl, _, _, ⟨found, seen, mapped⟩, extra⟩ := ofValue_ok read
  refine link.isWhole_toValue_iff.mpr ⟨fun p given => ?_, extra ▸ areWhole_others whole _⟩
  obtain ⟨u, rfl, ran⟩ := of_mem_mapM mapped given
  exact Properties.isWhole_of_ofValue ran (isWhole_of_mem whole (mem_of_knownOption seen).1)

theorem isWhole_of_linksOf {name : String} {members : Members} {links : List Link}
    (read : linksOf name members = .ok links) (whole : Members.AreWhole members) :
    ∀ link ∈ links, link.toValue.IsWhole := by
  intro link listed
  rcases linksOf_ok read with rfl | ⟨items, member, mapped⟩
  · cases listed
  · obtain ⟨v, there, ran⟩ := of_mem_mapM_list mapped listed
    have array : (Value.array items).IsWhole := isWhole_of_mem whole member
    exact Link.isWhole_of_ofValue ran ((Json.areWhole_iff items).mp array v there)

theorem Metadata.isWhole_of_ofValue {v : Value} {m : Metadata} (read : ofValue v = .ok m)
    (whole : v.IsWhole) : m.toValue.IsWhole := by
  obtain ⟨members, rfl, _, extra⟩ := ofValue_ok read
  exact m.isWhole_toValue_iff.mpr (extra ▸ areWhole_others whole _)

theorem Publication.isWhole_of_ofValue {v : Value} {p : Publication} (read : ofValue v = .ok p)
    (whole : v.IsWhole) : p.IsWhole := by
  obtain ⟨members, rfl, ⟨context, first, given⟩, ⟨metadata, made, second, mapped, described⟩,
    third, fourth, extra⟩ := ofValue_ok read
  refine ⟨fun w held => ?_, ?_, isWhole_of_linksOf third whole, isWhole_of_linksOf fourth whole,
    extra ▸ areWhole_others whole _⟩
  · rw [given] at held
    obtain ⟨u, rfl, rfl⟩ := Option.map_eq_some_iff.mp held
    exact Json.isWhole_canonical u (isWhole_of_mem whole (mem_of_knownOption first).1)
  · rw [described]
    cases made with
    | none => trivial
    | some m =>
      obtain ⟨u, rfl, ran⟩ := of_mem_mapM mapped rfl
      exact Metadata.isWhole_of_ofValue ran (isWhole_of_mem whole (mem_of_known second))

/-! ## Written publications -/

namespace Publication

theorem reread?_of_isWhole {p : Publication} (normal : p.Normal) (whole : p.IsWhole) :
    p.reread? = some p := by
  have kept := Json.reread?_of_isWhole p.toValue (p.isWhole_toValue_iff.mpr whole)
  rw [reread?_toValue] at kept
  obtain ⟨q, again, same⟩ := Option.map_eq_some_iff.mp kept
  -- Values tell publications in normal form apart, since they are read back from them.
  have read := ofValue_toValue (normal.reread again)
  rw [same, ofValue_toValue normal] at read
  cases read
  exact again

theorem read_of_value {text : String} {v : Value} (found : Value.read? text.toList = some v) :
    read text = ofValue v := by
  unfold read
  rw [found]

/-- What is written for a publication without other numbers is read as its value. -/
theorem value_render {p : Publication} (fits : p.Fits) (whole : p.IsWhole) :
    Value.read? p.render.toList = some p.toValue := by
  have shallow : p.toValue.depth ≤ Json.depthLimit := fits.depth
  have found := @Json.read?_render p.toValue [] (by simp)
  rw [Json.reread?_of_isWhole p.toValue (p.isWhole_toValue_iff.mpr whole), Option.bind_some,
    if_pos shallow] at found
  simpa [render] using found

/-- A publication without other numbers is read back from what is written for it. -/
theorem read_render_self {p : Publication} (normal : p.Normal) (fits : p.Fits)
    (whole : p.IsWhole) : read p.render = .ok p := by
  rw [read_of_value (value_render fits whole)]
  exact ofValue_toValue normal

end Publication

/-- A manifest with members that are not known at every level, some of them repeated. -/
def annotatedManifest : Value :=
  let record := Value.object [("algorithm", .string "AES-CBC"), ("scheme", .string "lcp"),
    ("originalLength", .number (.integer 18446744073709551615)), ("profile", .string "basic")]
  let properties := Value.object [("page", .string "left"), ("encrypted", record),
    ("page", .string "right")]
  let link := Value.object [("rel", .array [.null]), ("href", .string "a.html"),
    ("properties", properties), ("type", .string "")]
  .object [("note", .number (.integer (-1))), ("@context", .null),
    ("metadata", .object [("title", .object [("en", .string "A"), ("en", .string "B")]),
      ("author", .object [("sort", .bool true), ("name", .string "C")])]),
    ("readingOrder", .array [link]), ("note", .object [("b", .null), ("a", .number (.integer 0))])]

theorem read_annotatedManifest :
    Value.read? annotatedManifest.render.toList = some annotatedManifest ∧
      annotatedManifest.IsWhole ∧ ∃ p, Publication.read annotatedManifest.render = .ok p := by
  have whole : annotatedManifest.IsWhole := by
    simp [annotatedManifest, Value.IsWhole, Json.AreWhole, Members.AreWhole, Json.Number.IsWord]
  have found := @Json.read?_render annotatedManifest [] (by simp)
  have shallow : annotatedManifest.depth ≤ Json.depthLimit := by decide
  rw [Json.reread?_of_isWhole _ whole, Option.bind_some, if_pos shallow] at found
  have read : Value.read? annotatedManifest.render.toList = some annotatedManifest := by
    simpa using found
  have formed : (Publication.ofValue annotatedManifest).isOk = true := rfl
  refine ⟨read, whole, ?_⟩
  rw [Publication.read_of_value read]
  cases made : Publication.ofValue annotatedManifest with
  | error e => cases made ▸ formed
  | ok p => exact ⟨p, rfl⟩

end Bindery
