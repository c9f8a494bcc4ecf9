/-
Summaries that are written and read again.

A summary is read back from its text, whatever names and paths it holds. A file that it was saved to
holds this text, as long as nothing else is written there. So a cloner can be handed what another one
has saved.

* **`Summary.parse?_render`** — the text of a summary is read back as the summary;
* **`Summary.find_of_save`** — what a file holds that a summary was saved to;
* **`Summary.Stored`** — a summary that can be loaded stands in a file;
* **`Summary.load_of_save`** — a load after a save, and what the octets of a summary depend on;
* **`Summary.not_loaded_after_save`** — saves whose summaries are not given back;
* **`Cloner.saveContents_eq_ok`**, **`Cloner.restoreContents_of_stored`** — what a cloner has to do with
  it.
-/
import RpmProvision.Cloner
import RpmProvision.Proofs.Disk.Apart
import RpmProvision.Proofs.Graph.Document

namespace RpmProvision

open Json Step

/-! ### Documents -/

theorem Json.word32?_natural (n : UInt32) : word32? (natural n.toNat) = some n := by
  rw [word32?, natural?_natural, Option.bind_some, if_pos n.toNat_lt, UInt32.ofNat_toNat]

namespace FetchedPackage

/-- The fields of a package's document. -/
def fields (p : FetchedPackage) : List (String × Option Json) :=
  [("rpm_path", some p.rpmPath.toJson), ("prebuilt", some (.bool p.prebuilt))]

theorem ofJson?_toJson (p : FetchedPackage) : ofJson? p.toJson = some p := by
  have hnames : (p.fields.map Prod.fst).Nodup := by
    show ["rpm_path", "prebuilt"].Nodup
    decide
  have hfields : p.toJson.fields? ["rpm_path", "prebuilt"] = some (p.fields.map Prod.snd) :=
    fields?_written hnames
  rw [ofJson?, hfields]
  rfl

theorem plain_toJson (p : FetchedPackage) : Plain p.toJson := by
  refine plain_record fun m hm => ?_
  simp only [List.mem_cons, List.not_mem_nil, or_false] at hm
  rcases hm with rfl | rfl
  · exact plain_ofText _
  · exact plain_bool _

end FetchedPackage

namespace Summary

/-- The members of the document of some packages. -/
def membersOf (packages : Contents) : List (String × Json) :=
  packages.entries.map fun p => (p.1, p.2.toJson)

theorem contentsOfJson?_record (packages : Contents) :
    contentsOfJson? (.record (membersOf packages)) = some packages := by
  have hall (l : List (String × FetchedPackage)) :
      (l.map fun p => (p.1, p.2.toJson)).mapM
        (fun m => (FetchedPackage.ofJson? m.2).map (m.1, ·)) = some l := by
    rw [mapM_eq_some_iff, List.forall₂_map_left_iff, List.forall₂_same]
    intro p _
    rw [FetchedPackage.ofJson?_toJson]
    rfl
  show (members? (.record (membersOf packages))).bind _ = _
  rw [members?_eq_some_iff.mpr rfl, Option.bind_some, membersOf, hall]
  exact congrArg some packages.ofList_entries

/-- The fields of a summary's document. -/
def fields (s : Summary) : List (String × Option Json) :=
  [("version", some (.natural s.version.toNat)), ("packages", some (.record (membersOf s.packages)))]

theorem ofJson?_toJson (s : Summary) : ofJson? s.toJson = some s := by
  have hnames : (s.fields.map Prod.fst).Nodup := by
    show ["version", "packages"].Nodup
    decide
  have hfields : s.toJson.fields? ["version", "packages"] = some (s.fields.map Prod.snd) :=
    fields?_written hnames
  rw [ofJson?, hfields]
  show (do
    let version ← word32? (.natural s.version.toNat)
    let packages ← contentsOfJson? (.record (membersOf s.packages))
    some (⟨version, packages⟩ : Summary)) = some s
  rw [word32?_natural, contentsOfJson?_record]
  rfl

theorem plain_toJson (s : Summary) : Plain s.toJson := by
  refine plain_record fun m hm => ?_
  simp only [List.mem_cons, List.not_mem_nil, or_false] at hm
  rcases hm with rfl | rfl
  · exact plain_natural _
  · refine plain_record fun m hm => ?_
    obtain ⟨p, -, rfl⟩ := List.mem_map.mp hm
    exact p.2.plain_toJson

/-- The text of a summary is read back as the summary. -/
theorem parse?_render (s : Summary) : parse? s.render = some s := by
  have hread : Json.read? s.render = some s.toJson := read?_line s.plain_toJson
  rw [parse?, hread, Option.bind_some, ofJson?_toJson]

/-! ### Files -/

theorem save_eq_ok {s : Summary} {path : Path} {w w' : World} (h : s.save path w = (.ok (), w')) :
    ∃ d, Disk.write path (Text.Utf8.encode s.render) w.disk = (.ok (), d)
      ∧ w' = { w with disk := d } := by
  rw [save, mapError_apply, World.onDisk, within_apply] at h
  rcases hwrite : Disk.write path (Text.Utf8.encode s.render) w.disk with ⟨fault | _, d⟩
  · rw [hwrite] at h
    cases h
  · rw [hwrite] at h
    cases h
    exact ⟨d, rfl, rfl⟩

/-- A file that a summary was saved to holds the text of the summary, also when the save has been
logged, unless the log goes into that file. -/
theorem find_of_save {s : Summary} {path : Path} {w w' : World} {e : Event} (htree : w.disk.IsTree)
    (hlog : ∀ f, w.logFile = some f → w.disk.writable path ≠ .ok f.location)
    (hsave : s.save path w = (.ok (), w')) :
    ∃ l, (w'.record e).disk.find path = .ok (l, .file (Text.Utf8.encode s.render)) := by
  obtain ⟨d, hwrite, rfl⟩ := save_eq_ok hsave
  obtain ⟨l, hw, hd⟩ := Disk.write_eq_ok hwrite
  have hretains := (htree.write path (Text.Utf8.encode s.render)).2
  rw [hwrite] at hretains
  have hfile : d.entryAt l = some (.file (Text.Utf8.encode s.render)) := by
    rw [hd]
    exact Disk.entryAt_put_self _ (htree.vacant_of_writable hw).1.ne_nil _
  -- the log is written elsewhere, and leaves the way to the file as it is
  have hapart : ∀ f, ({ w with disk := d } : World).logFile = some f → f.location ≠ l := by
    rintro f hf rfl
    exact hlog f hf hw
  have hlogged := (World.untouched_record hapart e).1.trans hfile
  have hway := hretains.trans (.of_alike (World.alike_record { w with disk := d } e))
  exact ⟨l, hway.find_of_writable hw hlogged⟩

/-- A file can be read, holds the text of the summary, and the summary has the current version. -/
def Stored (summary : Summary) (path : Path) (d : Disk) : Prop :=
  ∃ text, d.readText path = .ok text ∧ parse? text = some summary
    ∧ summary.version = currentVersion

/-- A file that holds the text of a summary of the current version holds the summary. -/
theorem stored_of_read {s : Summary} {path : Path} {d : Disk}
    (hread : d.read path = .ok (Text.Utf8.encode s.render)) (hversion : s.version = currentVersion) :
    s.Stored path d :=
  ⟨s.render, Disk.readText_of_read hread, s.parse?_render, hversion⟩

theorem load_of_stored {summary : Summary} {path : Path} {w : World}
    (h : summary.Stored path w.disk) : load path w = (.ok summary, w) := by
  obtain ⟨text, hread, hparse, hversion⟩ := h
  rw [load, bind_apply, mapError_apply, World.look, hread]
  show andThen _ (.ok text, w) = _
  rw [andThen_ok, hparse]
  dsimp only
  rw [if_pos hversion]
  rfl

/-- Without such a summary the load fails as a restore does. -/
theorem load_of_not_stored {path : Path} {w : World}
    (h : ∀ summary : Summary, ¬ summary.Stored path w.disk) :
    ∃ e, load path w = (.error e, w) ∧ e.kind = .summaryRestore := by
  rw [load, bind_apply, mapError_apply, World.look]
  cases hread : w.disk.readText path with
  | error fault => exact ⟨_, rfl, rfl⟩
  | ok text =>
    show ∃ e, andThen _ (.ok text, w) = _ ∧ _
    rw [andThen_ok]
    cases hparse : parse? text with
    | none => exact ⟨_, rfl, rfl⟩
    | some summary =>
      dsimp only
      rw [if_neg fun hversion => h summary ⟨text, hread, hparse, hversion⟩]
      exact ⟨_, rfl, rfl⟩

/-- What a load makes of a summary that it reads: of another version than the current one it takes
none. -/
def admitted (s : Summary) (path : Path) : Except Error Summary :=
  if s.version = currentVersion then .ok s
  else .error ⟨.summaryRestore,
    s!"'{path.text}' has unsupported version {s.version} (expected {currentVersion})"⟩

theorem load_of_readText {s : Summary} {path : Path} {w : World}
    (h : w.disk.readText path = .ok s.render) : load path w = (s.admitted path, w) := by
  rw [load, bind_apply, mapError_apply, World.look, h]
  show andThen _ (.ok s.render, w) = _
  rw [andThen_ok, parse?_render]
  dsimp only
  rw [admitted]
  split_ifs <;> rfl

theorem load_of_denied {path : Path} {w : World} (h : w.disk.readText path = .error .denied) :
    load path w = (.error ⟨.summaryRestore, s!"'{path.text}': {IoFault.denied.message}"⟩, w) := by
  rw [load, bind_apply, mapError_apply, World.look, h]
  rfl

/-- Different summaries have different octets. -/
theorem octets_inj {s s' : Summary} :
    Text.Utf8.encode s.render = Text.Utf8.encode s'.render ↔ s = s' := by
  constructor
  · intro h
    have hdecode := congrArg Text.Utf8.decode? h
    rw [Text.Utf8.decode?_encode, Text.Utf8.decode?_encode] at hdecode
    have hparse := congrArg parse? (Option.some.inj hdecode)
    rw [parse?_render, parse?_render] at hparse
    exact Option.some.inj hparse
  · rintro rfl
    rfl

/-- A summary that was saved is what its file holds. A load gives it back, unless its version is
refused or the save went over a file that may be written but not read, and so does every later load
that can still read the same octets there. What a save writes depends on nothing but the last package
that was inserted under each name. -/
theorem load_of_save (path : Path) :
    (∀ (s : Summary) (w w' : World), w.disk.IsTree → s.save path w = (.ok (), w') →
      (∃ l, w'.disk.find path = .ok (l, .file (Text.Utf8.encode s.render))
        ∧ load path w' = (if (w.disk.accessAt l).read then s.admitted path
            else .error ⟨.summaryRestore, s!"'{path.text}': {IoFault.denied.message}"⟩, w'))
      ∧ ∀ later : World, later.disk.read path = .ok (Text.Utf8.encode s.render) →
        load path later = (s.admitted path, later))
      ∧ ∀ (version : UInt32) (l l' : List (String × FetchedPackage)),
          Text.Utf8.encode (render ⟨version, .ofList l⟩)
              = Text.Utf8.encode (render ⟨version, .ofList l'⟩)
            ↔ ∀ name, SortedMap.lookup name l.reverse = SortedMap.lookup name l'.reverse := by
  constructor
  · intro s w w' htree hsave
    refine ⟨?_, fun later hread => load_of_readText (Disk.readText_of_read hread)⟩
    obtain ⟨d, hwrite, rfl⟩ := save_eq_ok hsave
    obtain ⟨l, -, hfind, haccess⟩ := htree.find_of_write hwrite
    refine ⟨l, hfind, ?_⟩
    have htext := Disk.readText_of_find hfind
    rw [haccess] at htext
    by_cases hmay : (w.disk.accessAt l).read
    · rw [if_pos hmay] at htext ⊢
      exact load_of_readText htext
    · rw [if_neg hmay] at htext ⊢
      exact load_of_denied htext
  · intro version l l'
    rw [octets_inj, Summary.mk.injEq, eq_self_iff_true, true_and]
    constructor
    · intro h name
      rw [← SortedMap.find?_ofList, h, SortedMap.find?_ofList]
    · intro h
      refine SortedMap.ext_find? fun name => ?_
      rw [SortedMap.find?_ofList, SortedMap.find?_ofList, h]

/-- Two packages whose names and paths hold quotes, a backslash, a line end and other than Latin
letters. -/
def quotedSummary (version : UInt32) : Summary :=
  ⟨version, .ofList [("zlib \"z\"\n", ⟨⟨"out\\zlib.rpm"⟩, false⟩), ("ζλιβ", ⟨⟨"out/ζλιβ 📦.rpm"⟩, true⟩)]⟩

/-- A disk without files. -/
def blankDisk : Disk := ⟨∅, [], ∅⟩

theorem load_of_save_quoted :
    (∃ w, (quotedSummary currentVersion).save ⟨"summary.json"⟩ (.start blankDisk) = (.ok (), w)
        ∧ load ⟨"summary.json"⟩ w = (.ok (quotedSummary currentVersion), w))
      ∧ ∃ w, (quotedSummary 9).save ⟨"summary.json"⟩ (.start blankDisk) = (.ok (), w)
        ∧ load ⟨"summary.json"⟩ w = (.error ⟨.summaryRestore,
            "'summary.json' has unsupported version 9 (expected 1)"⟩, w) := by
  have htree : blankDisk.IsTree := by decide
  obtain ⟨hload, -⟩ := load_of_save ⟨"summary.json"⟩
  have hsaved (version : UInt32) : ∃ w,
      (quotedSummary version).save ⟨"summary.json"⟩ (.start blankDisk) = (.ok (), w)
        ∧ w.disk.read ⟨"summary.json"⟩ = .ok (Text.Utf8.encode (quotedSummary version).render) :=
    ⟨_, Prod.ext rfl rfl, rfl⟩
  constructor
  · obtain ⟨w, hsave, hread⟩ := hsaved currentVersion
    exact ⟨w, hsave, (hload _ _ w htree hsave).2 w hread⟩
  · obtain ⟨w, hsave, hread⟩ := hsaved 9
    exact ⟨w, hsave, (hload _ _ w htree hsave).2 w hread⟩

/-- A disk with a summary file that may be written but not read. -/
def writeOnlyDisk : Disk :=
  ⟨.ofList [(["summary.json"], .file [])], [], .ofList [(["summary.json"], ⟨false, true, false⟩)]⟩

/-- A disk with a link to where a summary may be. -/
def linkedDisk : Disk := ⟨.ofList [(["t.json"], .link ⟨"s.json"⟩)], [], ∅⟩

/-- A save that succeeds is not enough for a load to give the summary back. The file may be one that
cannot be read, and another save may have come to the same file by another path. -/
theorem not_loaded_after_save :
    (∃ w, (quotedSummary currentVersion).save ⟨"summary.json"⟩ (.start writeOnlyDisk) = (.ok (), w)
        ∧ load ⟨"summary.json"⟩ w = (.error ⟨.summaryRestore,
            "'summary.json': Permission denied (os error 13)"⟩, w))
      ∧ ∃ w w', (quotedSummary currentVersion).save ⟨"s.json"⟩ (.start linkedDisk) = (.ok (), w)
        ∧ (quotedSummary 9).save ⟨"t.json"⟩ w = (.ok (), w')
        ∧ load ⟨"s.json"⟩ w' = (.error ⟨.summaryRestore,
            "'s.json' has unsupported version 9 (expected 1)"⟩, w') := by
  constructor
  · exact ⟨_, Prod.ext rfl rfl, load_of_denied rfl⟩
  · have hread : (((quotedSummary 9).save ⟨"t.json"⟩
          ((quotedSummary currentVersion).save ⟨"s.json"⟩ (.start linkedDisk)).2).2.disk.read
        ⟨"s.json"⟩) = .ok (Text.Utf8.encode (quotedSummary 9).render) := rfl
    exact ⟨_, _, Prod.ext rfl rfl, Prod.ext rfl rfl,
      load_of_readText (Disk.readText_of_read hread)⟩

end Summary

/-! ### Cloners -/

namespace Cloner

variable {τ : Type} {path : Path} {s s' : Session τ}

/-- A save that succeeds has saved the summary and added to the log. -/
theorem saveContents_eq_ok {cloner : Cloner τ} (h : cloner.saveContents path s = (.ok (), s')) :
    ∃ w e, (cloner.contents s).1.save path (cloner.contents s).2.world = (.ok (), w)
      ∧ s' = ⟨w.record e, (cloner.contents s).2.agent⟩ := by
  obtain ⟨summary, s₁, hcontents, h⟩ := bind_eq_ok.mp h
  cases hcontents
  obtain ⟨_, s₂, hsave, hlog⟩ := bind_eq_ok.mp h
  obtain ⟨hok, rfl⟩ := Prod.mk.inj hsave
  cases hlog
  exact ⟨_, _, Prod.ext hok rfl, rfl⟩

/-- A summary that can be loaded is handed to the cloner, and that it is taken over is logged. -/
theorem restoreContents_of_stored {summary : Summary} (h : summary.Stored path s.world.disk)
    (cloner : Cloner τ) :
    cloner.restoreContents path s
      = ((cloner.restore summary).mapError (Error.asKind .summaryRestore) >>= fun _ =>
          Session.log .info .summary
            s!"Restored {summary.packages.size} cloned packages from {path.text}") s := by
  unfold restoreContents
  exact Session.onWorld_bind_of_ok (Summary.load_of_stored h) _

/-- Without such a summary the cloner is not asked. -/
theorem restoreContents_of_not_stored (h : ∀ summary : Summary, ¬ summary.Stored path s.world.disk)
    (cloner : Cloner τ) :
    ∃ e, cloner.restoreContents path s = (.error e, s) ∧ e.kind = .summaryRestore := by
  obtain ⟨e, hload, hkind⟩ := Summary.load_of_not_stored h
  refine ⟨e, ?_, hkind⟩
  unfold restoreContents
  exact Session.onWorld_bind_of_error hload _

end Cloner

end RpmProvision
