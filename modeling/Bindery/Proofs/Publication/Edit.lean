import Bindery.Proofs.Publication.Link

/-! Edited publications. Whatever sequence of edits is made to a publication that was read, it is
written and read back as it is: no edit makes a link that cannot be written. The protections that are
set are new ones, of three texts, and those that links had when they were read. -/
namespace Bindery

/-- A change to a list of links. -/
inductive LinkEdit where
  | append (href type : String)
  | carryOver (position : Nat) (type : String)
  | protect (href scheme profile algorithm : String)
  /-- The protection that the first link with the reference `source` was read with, if it had one,
  for the first link with a reference. -/
  | restore (href source : String)

/-- The links behind a change. The publication is the one that was read. -/
def LinkEdit.apply (origin : Publication) : LinkEdit → List Link → List Link
  | append href type, links => links ++ [.bare href type]
  | carryOver position type, links => links.modify position (·.carriedOver type)
  | protect href scheme profile algorithm, links =>
    Publication.updateFirst href (·.protect { scheme, profile, algorithm }) links
  | restore href source, links =>
    match (origin.link? source).bind Link.protection? with
    | some p => Publication.updateFirst href (·.protect p) links
    | none => links

/-- A change to one of the two lists of a publication. -/
inductive Edit where
  | readingOrder (change : LinkEdit)
  | resources (change : LinkEdit)

def Edit.apply (origin : Publication) : Edit → Publication → Publication
  | readingOrder change, p => { p with readingOrder := change.apply origin p.readingOrder }
  | resources change, p => { p with resources := change.apply origin p.resources }

def Publication.edited (p : Publication) (edits : List Edit) : Publication :=
  edits.foldl (fun behind edit => edit.apply p behind) p

theorem sound_modify {links : List Link} (sound : ∀ link ∈ links, link.Sound) (position : Nat)
    {change : Link → Link} (keeps : ∀ {link : Link}, link.Sound → (change link).Sound) :
    ∀ link ∈ links.modify position change, link.Sound := by
  induction links generalizing position with
  | nil => simp
  | cons link links ih =>
    obtain ⟨here, others⟩ := List.forall_mem_cons.mp sound
    cases position with
    | zero => exact List.forall_mem_cons.mpr ⟨keeps here, others⟩
    | succ position => exact List.forall_mem_cons.mpr ⟨here, ih others position⟩

theorem LinkEdit.sound_apply {origin : Publication} (read : origin.Sound) (change : LinkEdit)
    {links : List Link} (sound : ∀ link ∈ links, link.Sound) :
    ∀ link ∈ change.apply origin links, link.Sound := by
  cases change with
  | append href type =>
    exact List.forall_mem_append.mpr
      ⟨sound, List.forall_mem_singleton.mpr (Link.sound_bare href type)⟩
  | carryOver position type => exact sound_modify sound position fun good => good.carriedOver type
  | protect href scheme profile algorithm =>
    exact Publication.forall_mem_updateFirst sound href fun good =>
      good.protect (Protection.sound_texts scheme profile algorithm)
  | restore href source =>
    rw [LinkEdit.apply]
    split
    · rename_i p given
      obtain ⟨link, found, held⟩ := Option.bind_eq_some_iff.mp given
      have listed : link ∈ origin.readingOrder := List.mem_of_find?_eq_some found
      exact Publication.forall_mem_updateFirst sound href fun good =>
        good.protect ((read.readingOrder link listed).protection held)
    · exact sound

namespace Publication

theorem Sound.apply {origin p : Publication} (read : origin.Sound) (sound : p.Sound)
    (edit : Edit) : (edit.apply origin p).Sound := by
  cases edit with
  | readingOrder change =>
    exact sound.withReadingOrder (change.sound_apply read sound.readingOrder)
  | resources change => exact sound.withResources (change.sound_apply read sound.resources)

theorem Sound.edited {p : Publication} (sound : p.Sound) (edits : List Edit) :
    (p.edited edits).Sound := by
  have behind (q : Publication) (good : q.Sound) :
      (edits.foldl (fun behind edit => edit.apply p behind) q).Sound := by
    induction edits generalizing q with
    | nil => exact good
    | cons edit edits ih => exact ih _ (sound.apply good edit)
  exact behind p sound

theorem sound_of_read {text : String} {p : Publication} (read : read text = .ok p)
    (whole : p.IsWhole) : p.Sound := by
  rw [← readBytes_utf8Bytes] at read
  obtain ⟨normal, fits⟩ := of_readBytes read
  exact ⟨normal, fits, whole⟩

/-- A publication that was read and then edited is read back from what is written for it, if all its
numbers are 64-bit integers. A protection that an edit sets holds three texts and nothing else, or it
is one that was read. -/
theorem read_edited {text : String} {p : Publication} (read : read text = .ok p)
    (whole : p.IsWhole) (edits : List Edit) :
    Publication.read (p.edited edits).render = .ok (p.edited edits) :=
  let sound := (sound_of_read read whole).edited edits
  read_render_self sound.normal sound.fits sound.whole

/-- Edits of each kind. -/
def someEdits : List Edit :=
  [.readingOrder (.append "b.html" ""), .readingOrder (.carryOver 0 "text/html"),
    .readingOrder (.restore "b.html" "a.html"),
    .readingOrder (.protect "a.html" "lcp" "\"1\"" ""), .resources (.append "c.css" "text/css"),
    .resources (.protect "c.css" "lcp" "" "AES")]

theorem read_edited_someEdits : ∃ p, Publication.read annotatedManifest.render = .ok p ∧
    p.IsWhole ∧ Publication.read (p.edited someEdits).render = .ok (p.edited someEdits) := by
  obtain ⟨found, all, p, read⟩ := read_annotatedManifest
  have whole : p.IsWhole := isWhole_of_ofValue ((read_of_value found).symm.trans read) all
  exact ⟨p, read, whole, read_edited read whole someEdits⟩

end Publication
end Bindery
