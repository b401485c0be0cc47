import Mathlib.Algebra.GroupWithZero.Nat
import PiGwPanel.CheckedResult
import PiGwPanel.OwnedSteps
import PiGwPanel.PyText

/-!
# Replacing the geo data

`update` of `geo_data.py`: the files of a dataset are downloaded and checked in a
temporary box, then swapped in one after the other, each old file kept beside the
new one, and xray is reloaded; if it does not come back the kept files are put
back. A failed update may not touch the files of the dataset. It does so in three
ways: a swap that stops half-way is not undone, the undo after the reload leaves
a file in place that was not there before, and seeding comes ahead of everything.
-/

namespace PiGwPanel.GeoData

open PyText OwnedSteps List Option

/-- The content of a file. -/
abbrev Data := List UInt8

/-- The files of the asset directory, by name. -/
abbrev Dir := String → Option Data

/-- The directory with another content under a name. -/
def set (dir : Dir) (name : String) (content : Option Data) : Dir := fun other =>
  if other = name then content else dir other

@[simp] theorem set_self (dir : Dir) (name : String) (content : Option Data) :
    set dir name content name=content := if_pos rfl

theorem set_of_ne (dir : Dir) {name other : String} (content : Option Data) (h : other≠name) :
    set dir name content other=dir other := if_neg h

theorem set_congr {dir other : Dir} {key : String} (h : dir key=other key) (name : String)
    (content : Option Data) : set dir name content key=set other name content key := by
  unfold set
  rw [h]

/-- An exception and its text. -/
structure PyException where
  (kind text : String)
  deriving DecidableEq, Repr

/-- The exception as an answer reports it. -/
def PyException.render (why : PyException) : String := why.kind ++ ": " ++ why.text

/-- A `ValueError`. -/
def valueError (text : String) : PyException := ⟨"ValueError", text⟩

/-- One file of a dataset: its local name, the repository and the asset it comes from. -/
structure GeoFile where
  (name repo asset : String)
  deriving DecidableEq, Repr

/-- `DATASETS`. -/
def datasets (dataset : String) : Option (List GeoFile) :=
  if dataset = "stock" then
    some [⟨"geoip.dat", "v2fly/geoip", "geoip.dat"⟩,
      ⟨"geosite.dat", "v2fly/domain-list-community", "dlc.dat"⟩]
  else if dataset = "ru" then
    some [⟨"geoip_ru.dat", "runetfreedom/russia-v2ray-rules-dat", "geoip.dat"⟩,
      ⟨"geosite_ru.dat", "runetfreedom/russia-v2ray-rules-dat", "geosite.dat"⟩]
  else none

/-- The files the image brings along. -/
def imageNames : List String := ["geoip.dat", "geosite.dat"]

/-- Where the old file is kept. -/
def prev (name : String) : String := name ++ ".prev"

/-- Where a seed is copied to first. -/
def seed (name : String) : String := name ++ ".seed"

/-- What a copy or a move of a file comes to. -/
inductive Transfer where
  | done
  /-- It raised and left this at its destination. -/
  | failed (why : PyException) (left : Option Data)
  deriving DecidableEq, Repr

/-- What `fetch_url` brings. -/
inductive Fetched where
  | bytes (raw : Data)
  | text
  | failed (why : PyException)
  deriving DecidableEq, Repr

/-- Everything an update meets: the image, the network, xray, and which commands fail. -/
structure World where
  /-- The files of the image. -/
  image : Dir
  /-- `copyfile` of a seed. -/
  copy : String → Transfer
  /-- The rename of a seed to its place raises. -/
  install : String → Option PyException
  /-- The proxy, the free space or the temporary box cannot be had. -/
  refuses : Option PyException
  free : ℕ
  fetch : GeoFile → Fetched
  /-- The body of the published checksum, where there is one. -/
  checksum : GeoFile → Option String
  sha256 : Data → String
  /-- Writing a download to the box raises. -/
  write : GeoFile → Option PyException
  /-- The verdict on the live config with the staged files; nothing where there is no config. -/
  verdict : Except PyException (Option (Bool × String))
  explain : String → String
  /-- The rename of the live file to the kept one raises. -/
  rename : String → Option PyException
  /-- The move of the new file to its place. -/
  move : String → Transfer
  /-- The removal of the box raises. -/
  cleanup : Option PyException
  /-- `reload_if_running` after the swap. -/
  reload : Except PyException (Option Bool)
  /-- The rename of the kept file back raises. -/
  restore : String → Option PyException
  /-- The second reload raises. -/
  reloadAgain : Option PyException

section Steps

variable (world : World)

/-- One file of `ensure_seeded`. -/
def seedFile : Step String String (Option Data) PyException := fun name dir =>
  match dir name, world.image name with
  | none, some content =>
    match world.copy name with
    | .failed why left => (some why, set dir (seed name) left)
    | .done =>
      match world.install name with
      | some why => (some why, set dir (seed name) (some content))
      | none => (none, set (set dir (seed name) none) name (some content))
  | _, _ => (none, dir)

/-- `ensure_seeded`. -/
def ensureSeeded (dir : Dir) : Option PyException × Dir := forEach (seedFile world) imageNames dir

/-- `_published_sha256`. -/
def publishedSha256 (file : GeoFile) : Option String := do
  let body ← world.checksum file
  let first ← (splitText body).head?
  if first.length = 64 then some (lowerText first) else none

/-- The checks of `_download`. -/
def downloadIssue (file : GeoFile) (raw : Data) : Option String :=
  if raw.length < 1024 then
    some (file.asset ++ ": " ++ toString raw.length ++ " bytes is too small to be a geo file")
  else
    match publishedSha256 world file with
    | none => none
    | some published =>
      let got := world.sha256 raw
      if published = got then none
      else some (file.asset ++ ": checksum mismatch (published " ++
        String.ofList (published.toList.take 12) ++ "…, got " ++ String.ofList (got.toList.take 12) ++
        "…)")

/-- `_download`. -/
def download (file : GeoFile) : Except PyException (String × Data) :=
  match world.fetch file with
  | .failed why => .error why
  | .text => .error (valueError (file.asset ++ ": expected binary data"))
  | .bytes raw =>
    match downloadIssue world file raw with
    | some issue => .error (valueError issue)
    | none =>
      match world.write file with
      | some why => .error why
      | none => .ok (file.name, raw)

/-- The loop of downloads. -/
def downloadAll : List GeoFile → Except PyException (List (String × Data))
  | [] => .ok []
  | file :: rest => do
    let first ← download world file
    let others ← downloadAll rest
    pure (first :: others)

/-- The checks between the downloads and the swap; the text an answer reports. -/
def stagedIssue (dataset : String) (staged : List (String × Data)) : Option String :=
  let downloaded := (staged.map fun entry => entry.2.length).sum
  if world.free < downloaded * 3 then
    some (valueError ("not enough free space: " ++ toString world.free ++ " bytes for " ++
      toString downloaded ++ " of new data")).render
  else
    match world.verdict with
    | .error why => some why.render
    | .ok (some (false, detail)) =>
      some ("the running config does not load with the new " ++ dataset ++ " data: " ++
        world.explain detail)
    | .ok _ => none

/-- Everything before the swap. -/
def prepare (dataset : String) (files : List GeoFile) : Except String (List (String × Data)) :=
  match downloadAll world files with
  | .error why => .error why.render
  | .ok staged =>
    match stagedIssue world dataset staged with
    | some issue => .error issue
    | none => .ok staged

/-- The move of one new file into a place that is free. -/
def moveIn (entry : String × Data) (dir : Dir) : Option PyException × Dir :=
  match world.move entry.1 with
  | .done => (none, set dir entry.1 (some entry.2))
  | .failed why left => (some why, set dir entry.1 left)

/-- The swap of one file. -/
def swapFile : Step (String × Data) String (Option Data) PyException := fun entry dir =>
  match dir entry.1 with
  | none => moveIn world entry dir
  | some old =>
    match world.rename entry.1 with
    | some why => (some why, dir)
    | none => moveIn world entry (set (set dir (prev entry.1) (some old)) entry.1 none)

/-- One file of `_restore_previous`. -/
def restoreFile : Step String String (Option Data) PyException := fun name dir =>
  match dir (prev name) with
  | none => (none, dir)
  | some kept =>
    match world.restore name with
    | some why => (some why, dir)
    | none => (none, set (set dir (prev name) none) name (some kept))

/-- The answer of an update. -/
inductive Report where
  | refused (dataset error : String)
  | undone (dataset : String) (files : List String)
  | updated (dataset : String) (files : List String) (reloaded : Bool)
  deriving DecidableEq, Repr

/-- The field `ok` of an answer. -/
def Report.ok : Report → Bool
  | .updated _ _ _ => true
  | _ => false

/-- The answer, unless the removal of the box raises. -/
def cleaned (report : Report) (dir : Dir) : Except PyException Report × Dir :=
  match world.cleanup with
  | some why => (.error why, dir)
  | none => (.ok report, dir)

/-- The undo after a reload that failed. -/
def undo (dataset : String) (names : List String) (dir : Dir) : Except PyException Report × Dir :=
  match forEach (restoreFile world) names dir with
  | (some why, after) => (.error why, after)
  | (none, after) =>
    match world.reloadAgain with
    | some why => (.error why, after)
    | none => (.ok (.undone dataset names), after)

/-- The part of `update` after the swap. -/
def finish (dataset : String) (names : List String) (dir : Dir) : Except PyException Report × Dir :=
  match world.cleanup with
  | some why => (.error why, dir)
  | none =>
    match world.reload with
    | .error why => (.error why, dir)
    | .ok (some false) => undo world dataset names dir
    | .ok answer => (.ok (.updated dataset names (answer = some true)), dir)

/-- The part of `update` once the directory is seeded and the box is there. -/
def install (dataset : String) (files : List GeoFile) (dir : Dir) :
    Except PyException Report × Dir :=
  match prepare world dataset files with
  | .error error => cleaned world (.refused dataset error) dir
  | .ok staged =>
    match forEach (swapFile world) staged dir with
    | (some why, after) => cleaned world (.refused dataset why.render) after
    | (none, after) => finish world dataset (staged.map Prod.fst) after

/-- `update`. -/
def update (dir : Dir) (dataset : String) : Except PyException Report × Dir :=
  match datasets dataset with
  | none => (.error (valueError ("unknown dataset " ++ pyRepr dataset)), dir)
  | some files =>
    match ensureSeeded world dir with
    | (some why, seeded) => (.error why, seeded)
    | (none, seeded) =>
      match world.refuses with
      | some why => (.error why, seeded)
      | none => install world dataset files seeded

end Steps

variable {names : List String}

section Ownership

variable {world : World}

/-- A file and the one beside it. -/
def Owns (beside : String → String) (name key : String) : Prop := key = name ∨ key = beside name

/-- No file, nor the one beside it, is another's. -/
def Distinct (beside : String → String) (names : List String) : Prop :=
  names.Pairwise fun a b => a ≠ b ∧ a ≠ beside b ∧ beside a ≠ b ∧ beside a ≠ beside b

instance (beside : String → String) (names : List String) : Decidable (Distinct beside names) :=
  inferInstanceAs (Decidable (names.Pairwise _))

theorem apart_of_distinct {beside : String → String}
    (h : Distinct beside names) : Apart (Owns beside) names := by
  refine h.imp fun {a b} hdist key ha hb => ?_
  obtain ⟨h1,h2,h3,h4⟩ := hdist
  rcases ha with rfl | rfl <;> rcases hb with heq | heq
  · exact h1 heq
  · exact h2 heq
  · exact h3 heq
  · exact h4 heq

theorem prev_ne (name : String) : prev name≠name := by
  intro h
  have hlen := congrArg String.length h
  rw [prev,String.length_append] at hlen
  have hsuf : ".prev".length=5 := by decide
  omega

theorem owned_seedFile : Owned (seedFile world) (Owns seed) where
  frame name dir key hkey := by
    obtain ⟨hname,hseed⟩ := not_or.mp hkey
    unfold seedFile
    split
    · split
      · exact set_of_ne _ _ hseed
      · split
        · exact set_of_ne _ _ hseed
        · exact (set_of_ne _ _ hname).trans (set_of_ne _ _ hseed)
    · rfl
  raises name dir other h := by
    unfold seedFile
    rw [h name (.inl rfl)]
    split
    · split
      · rfl
      · split <;> rfl
    · rfl
  writes name dir other h key hkey := by
    have hsame := h key hkey
    unfold seedFile
    rw [h name (.inl rfl)]
    split
    · split
      · exact set_congr hsame _ _
      · split
        · exact set_congr hsame _ _
        · exact set_congr (set_congr hsame _ _) _ _
    · exact hsame

/-- A swap touches a file and its backup only. -/
theorem owned_swapFile : Owned (swapFile world) fun entry => Owns prev entry.1 where
  frame entry dir key hkey := by
    obtain ⟨hname,hprev⟩ := not_or.mp hkey
    have hmoved (dir : Dir) : (moveIn world entry dir).2 key=dir key := by
      unfold moveIn
      split <;> exact set_of_ne _ _ hname
    unfold swapFile
    split
    · exact hmoved dir
    · split
      · rfl
      · rw [hmoved,set_of_ne _ _ hname,set_of_ne _ _ hprev]
  raises entry dir other h := by
    have hraised (dir other : Dir) : (moveIn world entry dir).1=(moveIn world entry other).1 := by
      unfold moveIn
      split <;> rfl
    unfold swapFile
    rw [h entry.1 (.inl rfl)]
    split
    · exact hraised dir other
    · split
      · rfl
      · exact hraised _ _
  writes entry dir other h key hkey := by
    have hmoved (dir other : Dir) (hsame : dir key=other key) :
        (moveIn world entry dir).2 key=(moveIn world entry other).2 key := by
      unfold moveIn
      split <;> exact set_congr hsame _ _
    have hsame := h key hkey
    unfold swapFile
    rw [h entry.1 (.inl rfl)]
    split
    · exact hmoved dir other hsame
    · split
      · exact hsame
      · exact hmoved _ _ (set_congr (set_congr hsame _ _) _ _)

theorem owned_restoreFile : Owned (restoreFile world) (Owns prev) where
  frame name dir key hkey := by
    obtain ⟨hname,hprev⟩ := not_or.mp hkey
    unfold restoreFile
    split
    · rfl
    · split
      · rfl
      · exact (set_of_ne _ _ hname).trans (set_of_ne _ _ hprev)
  raises name dir other h := by
    unfold restoreFile
    rw [h (prev name) (.inr rfl)]
    split
    · rfl
    · split <;> rfl
  writes name dir other h key hkey := by
    have hsame := h key hkey
    unfold restoreFile
    rw [h (prev name) (.inr rfl)]
    split
    · exact hsame
    · split
      · exact hsame
      · exact set_congr (set_congr hsame _ _) _ _

end Ownership

section Outcomes

variable {world : World} {dir : Dir}

/-- A file that is not there, and that the image brings along. -/
def Missing (world : World) (dir : Dir) (name : String) : Prop :=
  name ∈ imageNames ∧ dir name = none ∧ world.image name ≠ none

instance (name : String) : Decidable (Missing world dir name) :=
  inferInstanceAs (Decidable (_ ∧ _ ∧ _))

/-- A file that is there when the swap comes to it. -/
def Present (world : World) (dir : Dir) (name : String) : Prop :=
  dir name ≠ none ∨ Missing world dir name

instance (name : String) : Decidable (Present world dir name) :=
  inferInstanceAs (Decidable (_ ∨ Missing world dir name))

/-- The update gets as far as its downloads, and its box can be removed. -/
structure Starts (world : World) (dir : Dir) : Prop where
  seeds : ∀ name ∈ imageNames, Missing world dir name →
    world.copy name = .done ∧ world.install name = none
  refuses : world.refuses = none
  cleanup : world.cleanup = none

/-- The swap of a file goes through. -/
def Swaps (world : World) (dir : Dir) (name : String) : Prop :=
  (Present world dir name → world.rename name = none) ∧ world.move name = .done

instance (name : String) : Decidable (Swaps world dir name) :=
  inferInstanceAs (Decidable ((Present world dir name → _) ∧ _))

/-- The content of a file after seeding. -/
def seededAt (world : World) (dir : Dir) (name : String) : Option Data :=
  if Missing world dir name then world.image name else dir name

variable {name : String}

theorem seededAt_ne_none_iff : seededAt world dir name≠none ↔ Present world dir name := by
  unfold seededAt Present
  split
  next hmiss =>
    exact iff_of_true hmiss.2.2 (.inr hmiss)
  next hmiss =>
    simp [hmiss]

theorem seededAt_eq_iff : seededAt world dir name=dir name ↔ ¬Missing world dir name := by
  unfold seededAt
  split
  next hmiss =>
    refine iff_of_false (fun h => hmiss.2.2 (h.trans hmiss.2.1)) (not_not.mpr hmiss)
  next hmiss =>
    exact iff_of_true rfl hmiss

theorem seedFile_eq_none_iff (hname : name∈imageNames) : (seedFile world name dir).1=none ↔
      (Missing world dir name → world.copy name = .done ∧ world.install name=none) := by
  unfold seedFile Missing
  split
  next content hdir himage =>
    have hmiss : name∈imageNames ∧ dir name=none ∧ world.image name≠none :=
      ⟨hname,hdir,by simp [himage]⟩
    rw [imp_iff_right hmiss]
    split
    next why left hcopy =>
      simp [hcopy]
    next hcopy =>
      split
      next why hinst =>
        simp [hinst]
      next hinst =>
        simp [hcopy,hinst]
  next hnot =>
    refine iff_of_true rfl fun hmiss => ?_
    obtain ⟨content,hcontent⟩ := ne_none_iff_exists'.mp hmiss.2.2
    exact absurd hcontent (hnot content hmiss.2.1)

theorem apart_images : Apart (Owns seed) imageNames := apart_of_distinct (by decide)

theorem ensureSeeded_eq_none_iff : (ensureSeeded world dir).1=none ↔
    ∀ name∈imageNames, Missing world dir name →
      world.copy name = .done ∧ world.install name=none := by
  rw [ensureSeeded,forEach_eq_none_iff owned_seedFile apart_images]
  exact forall₂_congr fun name hname => seedFile_eq_none_iff hname

theorem ensureSeeded_at (h : (ensureSeeded world dir).1=none) (hname : name∉imageNames.map seed) :
    (ensureSeeded world dir).2 name=seededAt world dir name := by
  have hnone := (forEach_eq_none_iff owned_seedFile apart_images).mp h
  by_cases himage : name∈imageNames
  · have hat : (ensureSeeded world dir).2 name=(seedFile world name dir).2 name :=
      forEach_at_owned owned_seedFile apart_images hnone himage (.inl rfl)
    rw [hat]
    have hstep := (seedFile_eq_none_iff himage).mp (hnone name himage)
    unfold seededAt
    split
    next hmiss =>
      obtain ⟨hcopy,hinst⟩ := hstep hmiss
      obtain ⟨-,hdir,hcontent⟩ := hmiss
      obtain ⟨content,hcontent⟩ := ne_none_iff_exists'.mp hcontent
      simp [seedFile,hdir,hcontent,hcopy,hinst]
    next hmiss =>
      unfold seedFile
      split
      next content hdir hcontent =>
        exact absurd ⟨himage,hdir,by simp [hcontent]⟩ hmiss
      · rfl
  · have hmiss : ¬Missing world dir name := fun h => himage h.1
    rw [seededAt,if_neg hmiss]
    refine forEach_frame owned_seedFile fun image hin hown => ?_
    rcases hown with rfl | rfl
    · exact himage hin
    · exact hname (mem_map_of_mem hin)

/-- A directory that agrees with the seeded one where the dataset is concerned. -/
def Agrees (world : World) (dir seeded : Dir) (names : List String) : Prop :=
  ∀ name ∈ names, seeded name = seededAt world dir name ∧ seeded (prev name) = dir (prev name)

section Swap

variable {seeded : Dir} {entry : String × Data}

theorem moveIn_at (from_ : Dir) : (moveIn world entry from_).2 entry.1 =
    match world.move entry.1 with
    | .done => some entry.2
    | .failed _ left => left := by
  unfold moveIn
  split <;> simp

theorem moveIn_eq_none_iff (from_ : Dir) :
    (moveIn world entry from_).1=none ↔ world.move entry.1 = .done := by
  unfold moveIn
  split
  · simp_all
  · simp_all

variable (h : seeded entry.1 = seededAt world dir entry.1)

include h

/-- The swap as the directory before seeding decides it. -/
theorem swapFile_eq : swapFile world entry seeded =
    if Present world dir entry.1 then
      match world.rename entry.1 with
      | some why => (some why, seeded)
      | none => moveIn world entry (set (set seeded (prev entry.1) (seeded entry.1)) entry.1 none)
    else moveIn world entry seeded := by
  unfold swapFile
  simp only [← seededAt_ne_none_iff,← h]
  cases seeded entry.1 <;> simp

theorem swapFile_eq_none_iff : (swapFile world entry seeded).1=none ↔ Swaps world dir entry.1 := by
  rw [swapFile_eq h]
  unfold Swaps
  split
  next hthere =>
    cases hrename : world.rename entry.1 with
    | some why => simp [hthere]
    | none => simp [moveIn_eq_none_iff]
  next hnot =>
    rw [moveIn_eq_none_iff]
    simp [hnot]

/-- After a swap the backup holds what a present file held. -/
theorem swapFile_at (hswaps : Swaps world dir entry.1) :
    (swapFile world entry seeded).2 entry.1=some entry.2 ∧
      (swapFile world entry seeded).2 (prev entry.1) =
        if Present world dir entry.1 then seeded entry.1 else seeded (prev entry.1) := by
  have hmoved (from_ : Dir) : (moveIn world entry from_).2 entry.1=some entry.2 := by
    rw [moveIn_at,hswaps.2]
  have hbeside (from_ : Dir) : (moveIn world entry from_).2 (prev entry.1)=from_ (prev entry.1) := by
    unfold moveIn
    split <;> exact set_of_ne _ _ (prev_ne entry.1)
  rw [swapFile_eq h]
  split
  next hthere =>
    rw [hswaps.1 hthere]
    refine ⟨hmoved _,?_⟩
    rw [hbeside,set_of_ne _ _ (prev_ne entry.1),set_self]
  · exact ⟨hmoved _,hbeside _⟩

/-- A file whose swap stops holds what the failed step left. -/
theorem swapFile_stopped (hstop : ¬Swaps world dir entry.1) :
    (swapFile world entry seeded).2 entry.1=dir entry.1 ↔
      (Present world dir entry.1 → world.rename entry.1≠none → ¬Missing world dir entry.1) ∧
      ((Present world dir entry.1 → world.rename entry.1=none) →
        ∀ why left, world.move entry.1 = .failed why left → left=dir entry.1) := by
  have hleft (from_ : Dir) (hgoes : Present world dir entry.1 → world.rename entry.1=none) :
      (moveIn world entry from_).2 entry.1=dir entry.1 ↔
        ∀ why left, world.move entry.1 = .failed why left → left=dir entry.1 := by
    rw [moveIn_at]
    cases hmove : world.move entry.1 with
    | done => exact absurd ⟨hgoes,hmove⟩ hstop
    | failed why left => simp
  rw [swapFile_eq h]
  split
  next hthere =>
    cases hrename : world.rename entry.1 with
    | some why =>
      change seeded entry.1=dir entry.1 ↔ _
      rw [h,seededAt_eq_iff]
      simp [hthere]
    | none => simp [hleft _ fun _ => hrename]
  next hnot => simp [hnot,hleft _ fun hp => absurd hp hnot]

end Swap

section Update

variable {dataset : String} {files : List GeoFile} {staged : List (String × Data)} {seeded : Dir}

theorem map_fst_downloadAll (h : downloadAll world files = .ok staged) :
    staged.map Prod.fst=files.map GeoFile.name := by
  induction files generalizing staged with
  | nil =>
    cases h
    rfl
  | cons file rest ih =>
    obtain ⟨first,hfst,hothers⟩ := CheckedResult.exists_of_bind_ok h
    obtain ⟨others,hrest,hstaged⟩ := CheckedResult.exists_of_bind_ok hothers
    cases hstaged
    have hname : first.1=file.name := by
      unfold download at hfst
      split at hfst
      · cases hfst
      · cases hfst
      · split at hfst
        · cases hfst
        · split at hfst
          · cases hfst
          · cases hfst
            rfl
    rw [map_cons,map_cons,hname,ih hrest]

theorem map_fst_prepare (h : prepare world dataset files = .ok staged) :
    staged.map Prod.fst=files.map GeoFile.name := by
  unfold prepare at h
  split at h
  · cases h
  next downloaded hdown =>
    split at h
    · cases h
    · cases h
      exact map_fst_downloadAll hdown

/-- The names of a dataset and of what is kept beside it. -/
structure Separate (names : List String) : Prop where
  distinct : Distinct prev names
  seeds : ∀ name ∈ names, name ∉ imageNames.map seed ∧ prev name ∉ imageNames.map seed

theorem separate_of_datasets (h : datasets dataset=some files) :
    Separate (files.map GeoFile.name) := by
  unfold datasets at h
  split at h
  · cases h
    exact ⟨by decide,by decide⟩
  · split at h
    · cases h
      exact ⟨by decide,by decide⟩
    · cases h

/-- Seeding brings in the missing files and leaves their backups alone. -/
theorem agrees_ensureSeeded (h : (ensureSeeded world dir).1=none)
    (hnames : Separate names) : Agrees world dir (ensureSeeded world dir).2 names := by
  intro name hname
  obtain ⟨hseed,hprev⟩ := hnames.seeds name hname
  have hnot : ¬Missing world dir (prev name) := by
    intro hmiss
    have himage := hmiss.1
    have hlen : (prev name).toList.getLast? = some 'v' := by simp [prev]
    simp only [imageNames,mem_cons,not_mem_nil,or_false] at himage
    rcases himage with heq | heq
    · rw [heq] at hlen
      exact absurd hlen (by decide)
    · rw [heq] at hlen
      exact absurd hlen (by decide)
  refine ⟨ensureSeeded_at h hseed,?_⟩
  rw [ensureSeeded_at h hprev,seededAt,if_neg hnot]

/-- The files of a dataset after an update are those before it. -/
def Unchanged (dir after : Dir) (names : List String) : Prop :=
  ∀ name ∈ names, after name = dir name

/-- An update that answers with a failure left every file of its dataset
alone. -/
def AllOrNothing (world : World) (dir : Dir) (dataset : String) : Prop :=
  ∀ files, datasets dataset = some files → ∀ report,
    (update world dir dataset).1 = .ok report → report.ok = false →
      Unchanged dir (update world dir dataset).2 (files.map GeoFile.name)

/-- The swap stops at a file and leaves no trace. -/
structure StopsClean (world : World) (dir : Dir) (before : List (String × Data))
    (entry : String × Data) (rest : List (String × Data)) : Prop where
  /-- The files before it held the new data already. -/
  done : ∀ earlier ∈ before, dir earlier.1 = some earlier.2
  /-- A file that is not renamed was not just seeded. -/
  renamed : Present world dir entry.1 → world.rename entry.1 ≠ none → ¬Missing world dir entry.1
  /-- A file that is not moved leaves what was there. -/
  moved : (Present world dir entry.1 → world.rename entry.1 = none) →
    ∀ why left, world.move entry.1 = .failed why left → left = dir entry.1
  /-- The files after it were not just seeded. -/
  unreached : ∀ later ∈ rest, ¬Missing world dir later.1

/-- When a failure leaves the files alone. -/
structure Harmless (world : World) (dir : Dir) (dataset : String) (files : List GeoFile) :
    Prop where
  /-- Ahead of the swap: no file was just seeded. -/
  refused : ∀ error, prepare world dataset files = .error error →
    ∀ file ∈ files, ¬Missing world dir file.name
  /-- In the swap. -/
  stopped : ∀ staged, prepare world dataset files = .ok staged → ∀ before entry rest,
    staged = before ++ entry :: rest → (∀ earlier ∈ before, Swaps world dir earlier.1) →
      ¬Swaps world dir entry.1 → StopsClean world dir before entry rest
  /-- After the swap, when xray does not come back: every file was there. -/
  undone : ∀ staged, prepare world dataset files = .ok staged →
    (∀ entry ∈ staged, Swaps world dir entry.1) → world.reload = .ok (some false) →
      (∀ entry ∈ staged, Present world dir entry.1 ∨ dir (prev entry.1) ≠ none →
        world.restore entry.1 = none) →
      world.reloadAgain = none → ∀ entry ∈ staged, dir entry.1 ≠ none

theorem apart_staged (hnames : Distinct prev (staged.map Prod.fst)) :
    Apart (fun entry : String × Data => Owns prev entry.1) staged :=
  pairwise_map.mp (apart_of_distinct hnames)

theorem install_refused {error : String} (hprepare : prepare world dataset files = .error error)
    (hcleanup : world.cleanup=none) :
    install world dataset files seeded=(.ok (.refused dataset error), seeded) := by
  unfold install
  rw [hprepare]
  unfold cleaned
  rw [hcleanup]

/-- A swap that stops is reported, and not undone. -/
theorem install_stopped (hprepare : prepare world dataset files = .ok staged)
    (hcleanup : world.cleanup=none) (hnames : Distinct prev (staged.map Prod.fst))
    (hagrees : Agrees world dir seeded (staged.map Prod.fst)) {before rest : List (String × Data)}
    {entry : String × Data} (hsplit : staged=before++entry::rest)
    (hpre : ∀ earlier∈before, Swaps world dir earlier.1) (hstop : ¬Swaps world dir entry.1) :
    ∃ error, (install world dataset files seeded).1 = .ok (.refused dataset error) ∧
      (Unchanged dir (install world dataset files seeded).2 (staged.map Prod.fst) ↔
        StopsClean world dir before entry rest) := by
  have hat {other : String × Data} (hother : other∈staged) :
      seeded other.1=seededAt world dir other.1 :=
    (hagrees other.1 (mem_map_of_mem hother)).1
  have hin : ∀ other∈before++entry::rest, other∈staged := fun other hother =>
    hsplit ▸ hother
  have hearlier : ∀ earlier∈before, (swapFile world earlier seeded).1=none :=
    fun earlier hmem => (swapFile_eq_none_iff (hat (hin earlier
      (mem_append_left _ hmem)))).mpr (hpre earlier hmem)
  have hentry : entry∈staged := hin entry (mem_append_right _ mem_cons_self)
  obtain ⟨why,hwhy⟩ : ∃ why, (swapFile world entry seeded).1=some why :=
    ne_none_iff_exists'.mp fun hnone =>
      hstop ((swapFile_eq_none_iff (hat hentry)).mp hnone)
  obtain ⟨hraised,hleft⟩ := forEach_stops owned_swapFile (hsplit ▸ apart_staged hnames) hearlier hwhy
  rw [← hsplit] at hraised hleft
  have hinst : install world dataset files seeded =
      (.ok (.refused dataset why.render), (forEach (swapFile world) staged seeded).2) := by
    unfold install
    rw [hprepare]
    dsimp only
    rcases hloop : forEach (swapFile world) staged seeded with ⟨raised,after⟩
    rw [hloop] at hraised
    subst hraised
    unfold cleaned
    rw [hcleanup]
  refine ⟨why.render,by rw [hinst],?_⟩
  rw [hinst]
  have hforall : Unchanged dir (forEach (swapFile world) staged seeded).2 (staged.map Prod.fst) ↔
      (∀ earlier∈before, dir earlier.1=some earlier.2) ∧
      (swapFile world entry seeded).2 entry.1=dir entry.1 ∧
      ∀ later∈rest, ¬Missing world dir later.1 := by
    unfold Unchanged
    rw [List.forall_mem_map]
    constructor
    · intro hall
      refine ⟨fun earlier hmem => ?_,?_,fun later hmem => ?_⟩
      · have hstaged := hin earlier (mem_append_left _ hmem)
        rw [← hall earlier hstaged,hleft.done earlier hmem _ (.inl rfl)]
        exact (swapFile_at (hat hstaged) (hpre earlier hmem)).1
      · rw [← hall entry hentry]
        exact (hleft.at_item _ (.inl rfl)).symm
      · have hstaged := hin later (mem_append_right _ (mem_cons_of_mem _ hmem))
        rw [← seededAt_eq_iff,← hat hstaged,← hall later hstaged]
        exact (hleft.unreached later hmem _ (.inl rfl)).symm
    · rintro ⟨hdone,hitem,hrest⟩ other hother
      rw [hsplit] at hother
      rcases mem_append.mp hother with hmem | hmem
      · rw [hleft.done other hmem _ (.inl rfl),hdone other hmem]
        exact (swapFile_at (hat (hin other hother)) (hpre other hmem)).1
      · rcases mem_cons.mp hmem with rfl | hlater
        · exact (hleft.at_item _ (.inl rfl)).trans hitem
        · rw [hleft.unreached other hlater _ (.inl rfl),hat (hin other hother)]
          exact seededAt_eq_iff.mpr (hrest other hlater)
  rw [hforall,swapFile_stopped (hat hentry) hstop]
  exact ⟨fun ⟨h1,⟨h2,h3⟩,h4⟩ => ⟨h1,h2,h3,h4⟩, fun h => ⟨h.done,⟨h.renamed,h.moved⟩,h.unreached⟩⟩

/-- What the restoring of a kept file leaves. -/
theorem restoreFile_at (h : (restoreFile world name dir).1=none) :
    (restoreFile world name dir).2 name =
      match dir (prev name) with
      | some kept => some kept
      | none => dir name := by
  unfold restoreFile at h ⊢
  split at h
  next hnone =>
    rw [hnone]
  next kept hkept =>
    rw [hkept]
    split at h
    · cases h
    · simp

theorem restoreFile_eq_none_iff :
    (restoreFile world name dir).1=none ↔ (dir (prev name)≠none → world.restore name=none) := by
  unfold restoreFile
  split
  · simp_all
  next kept hkept =>
    split <;> simp_all

/-- After a swap that went through, a failure is answered only when xray does not come back, and
then the files are as they were exactly if all of them were there. -/
theorem install_swapped (hprepare : prepare world dataset files = .ok staged)
    (hcleanup : world.cleanup=none) (hnames : Distinct prev (staged.map Prod.fst))
    (hagrees : Agrees world dir seeded (staged.map Prod.fst))
    (hswaps : ∀ entry∈staged, Swaps world dir entry.1) :
    (∀ report, (install world dataset files seeded).1 = .ok report → report.ok=false →
      Unchanged dir (install world dataset files seeded).2 (staged.map Prod.fst)) ↔
    (world.reload = .ok (some false) →
      (∀ entry∈staged, Present world dir entry.1 ∨ dir (prev entry.1)≠none →
        world.restore entry.1=none) →
      world.reloadAgain=none → ∀ entry∈staged, dir entry.1≠none) := by
  have hat {entry : String × Data} (hentry : entry∈staged) :
      seeded entry.1=seededAt world dir entry.1 ∧ seeded (prev entry.1)=dir (prev entry.1) :=
    hagrees entry.1 (mem_map_of_mem hentry)
  have hnone : ∀ entry∈staged, (swapFile world entry seeded).1=none := fun entry hentry =>
    (swapFile_eq_none_iff (hat hentry).1).mpr (hswaps entry hentry)
  have hapart := apart_staged hnames
  have hraised := (forEach_eq_none_iff owned_swapFile hapart).mpr hnone
  have hinst : install world dataset files seeded=finish world dataset (staged.map Prod.fst)
      (forEach (swapFile world) staged seeded).2 := by
    unfold install
    rw [hprepare]
    dsimp only
    rcases hloop : forEach (swapFile world) staged seeded with ⟨raised,after⟩
    rw [hloop] at hraised
    subst hraised
    rfl
  have hlive : ∀ entry∈staged,
      (forEach (swapFile world) staged seeded).2 entry.1=some entry.2 := fun entry hentry => by
    rw [forEach_at_owned owned_swapFile hapart hnone hentry (.inl rfl)]
    exact (swapFile_at (hat hentry).1 (hswaps entry hentry)).1
  have hkept : ∀ entry∈staged, (forEach (swapFile world) staged seeded).2 (prev entry.1) =
      if Present world dir entry.1 then seededAt world dir entry.1
      else dir (prev entry.1) := fun entry hentry => by
    rw [forEach_at_owned owned_swapFile hapart hnone hentry (.inr rfl),
      (swapFile_at (hat hentry).1 (hswaps entry hentry)).2,(hat hentry).1,(hat hentry).2]
  rw [hinst]
  generalize (forEach (swapFile world) staged seeded).2=after at hlive hkept
  have htried : ∀ entry∈staged, after (prev entry.1)≠none ↔
      Present world dir entry.1 ∨ dir (prev entry.1)≠none := fun entry hentry => by
    rw [hkept entry hentry]
    split
    next hpresent =>
      exact iff_of_true (seededAt_ne_none_iff.mpr hpresent) (.inl hpresent)
    next hpresent =>
      simp [hpresent]
  have hrestores : (forEach (restoreFile world) (staged.map Prod.fst) after).1=none ↔
      ∀ entry∈staged, Present world dir entry.1 ∨ dir (prev entry.1)≠none →
        world.restore entry.1=none := by
    rw [forEach_eq_none_iff owned_restoreFile (apart_of_distinct hnames),List.forall_mem_map]
    refine forall₂_congr fun entry hentry => ?_
    rw [restoreFile_eq_none_iff,htried entry hentry]
  have hback (hall : (forEach (restoreFile world) (staged.map Prod.fst) after).1=none) :
      Unchanged dir (forEach (restoreFile world) (staged.map Prod.fst) after).2
        (staged.map Prod.fst) ↔ ∀ entry∈staged, dir entry.1≠none := by
    have hsteps := (forEach_eq_none_iff owned_restoreFile (apart_of_distinct hnames)).mp hall
    unfold Unchanged
    rw [List.forall_mem_map]
    refine forall₂_congr fun entry hentry => ?_
    have hname : entry.1∈staged.map Prod.fst := mem_map_of_mem hentry
    rw [forEach_at_owned owned_restoreFile (apart_of_distinct hnames) hsteps hname (.inl rfl),
      restoreFile_at (hsteps entry.1 hname),hkept entry hentry]
    constructor
    · intro heq hgone
      rw [hgone] at heq
      split at heq
      · cases heq
      · rw [hlive entry hentry] at heq
        cases heq
    · intro hthere
      have hpresent : Present world dir entry.1 := .inl hthere
      have hsame : seededAt world dir entry.1=dir entry.1 :=
        seededAt_eq_iff.mpr fun hmiss => hthere hmiss.2.1
      rw [if_pos hpresent,hsame]
      obtain ⟨content,hcontent⟩ := ne_none_iff_exists'.mp hthere
      rw [hcontent]
  unfold finish
  rw [hcleanup]
  dsimp only
  split
  next why hreload =>
    simp [hreload]
  next hreload =>
    rw [imp_iff_right hreload,← hrestores]
    unfold undo
    rcases hloop : forEach (restoreFile world) (staged.map Prod.fst) after with ⟨raised,final⟩
    rw [hloop] at hback
    cases raised with
    | some why => simp
    | none =>
      cases hagain : world.reloadAgain with
      | some why => simp
      | none => simpa [Report.ok] using hback rfl
  next answer hnot hreload =>
    have hother : world.reload≠.ok (some false) := fun heq =>
      hnot (Except.ok.inj (hreload.symm.trans heq))
    simp [hother,Report.ok]

theorem update_of_starts (hdataset : datasets dataset=some files) (h : Starts world dir) :
    update world dir dataset=install world dataset files (ensureSeeded world dir).2 := by
  have hseeds := ensureSeeded_eq_none_iff.mpr h.seeds
  unfold update
  rw [hdataset]
  rcases hseeded : ensureSeeded world dir with ⟨raised,seeded⟩
  rw [hseeded] at hseeds
  subst hseeds
  rw [h.refuses]

theorem starts_of_update {report : Report} (hreport : (update world dir dataset).1 = .ok report) :
    Starts world dir := by
  unfold update at hreport
  split at hreport
  · cases hreport
  · split at hreport
    · cases hreport
    next seeded hseeded =>
      have hseeds := ensureSeeded_eq_none_iff.mp (congrArg Prod.fst hseeded)
      split at hreport
      · cases hreport
      next hrefuses =>
        refine ⟨hseeds,hrefuses,?_⟩
        by_contra hcleanup
        obtain ⟨why,hwhy⟩ := ne_none_iff_exists'.mp hcleanup
        unfold install cleaned finish at hreport
        rw [hwhy] at hreport
        split at hreport
        · cases hreport
        · split at hreport <;> cases hreport

theorem exists_first {α : Type} {P : α → Prop} [DecidablePred P] {items : List α}
    (h : ¬∀ item∈items, P item) : ∃ before item rest, items=before++item::rest ∧
      (∀ earlier∈before, P earlier) ∧ ¬P item := by
  cases hfind : items.find? fun item => ¬P item with
  | none => exact absurd (by simpa using find?_eq_none.mp hfind) h
  | some item =>
    obtain ⟨hitem,before,rest,hsplit,hpre⟩ := find?_eq_some_iff_append.mp hfind
    exact ⟨before,item,rest,hsplit,by simpa using hpre,by simpa using hitem⟩

/-- An update is all or nothing exactly when it raises ahead of its downloads, or every failure it
may run into is harmless. -/
theorem update_all_or_nothing_iff (world : World) (dir : Dir) (dataset : String) :
    AllOrNothing world dir dataset ↔ ∀ files, datasets dataset = some files →
      Starts world dir → Harmless world dir dataset files := by
  refine forall₂_congr fun files hdataset => ?_
  by_cases hstarts : Starts world dir
  swap
  · refine iff_of_true (fun report hreport => ?_) fun h => absurd h hstarts
    exact absurd (starts_of_update hreport) hstarts
  rw [imp_iff_right hstarts,update_of_starts hdataset hstarts]
  have hsep := separate_of_datasets hdataset
  have hagrees := agrees_ensureSeeded (ensureSeeded_eq_none_iff.mpr hstarts.seeds) hsep
  generalize (ensureSeeded world dir).2=seeded at hagrees
  cases hprepare : prepare world dataset files with
  | error error =>
    have hinst : install world dataset files seeded=(.ok (.refused dataset error), seeded) :=
      install_refused hprepare hstarts.cleanup
    have hunchanged : Unchanged dir seeded (files.map GeoFile.name) ↔
        ∀ file∈files, ¬Missing world dir file.name := by
      unfold Unchanged
      rw [List.forall_mem_map]
      refine forall₂_congr fun file hfile => ?_
      rw [(hagrees file.name (mem_map_of_mem hfile)).1,seededAt_eq_iff]
    rw [hinst]
    constructor
    · intro h
      exact ⟨fun _ _ => hunchanged.mp (h _ rfl rfl),
        fun _ hstaged => (nomatch hprepare.symm.trans hstaged),
        fun _ hstaged => (nomatch hprepare.symm.trans hstaged)⟩
    · exact fun h report _ _ => hunchanged.mpr (h.refused error hprepare)
  | ok staged =>
    have hsame := map_fst_prepare hprepare
    rw [← hsame] at hsep hagrees ⊢
    have hone {other : List (String × Data)} (hother : prepare world dataset files = .ok other) :
        other=staged := Except.ok.inj (hother.symm.trans hprepare)
    have hnever : ∀ error, prepare world dataset files≠.error error := by simp [hprepare]
    by_cases hswaps : ∀ entry∈staged, Swaps world dir entry.1
    · rw [install_swapped hprepare hstarts.cleanup hsep.distinct hagrees hswaps]
      constructor
      · intro h
        refine ⟨fun error herror => absurd herror (hnever error),
          fun other hother before entry rest hsplit _ hstop => ?_,fun other hother _ => ?_⟩
        · rw [hone hother] at hsplit
          have hentry : entry∈staged := by simp [hsplit]
          exact absurd (hswaps entry hentry) hstop
        · rw [hone hother]
          exact h
      · exact fun h => h.undone staged hprepare hswaps
    · obtain ⟨before,entry,rest,hsplit,hpre,hstop⟩ := exists_first hswaps
      obtain ⟨error,hreport,hunchanged⟩ := install_stopped hprepare hstarts.cleanup
        hsep.distinct hagrees hsplit hpre hstop
      constructor
      · intro h
        refine ⟨fun error herror => absurd herror (hnever error),
          fun other hother before' entry' rest' hsplit' hbefore' hstop' => ?_,
          fun other hother hall => ?_⟩
        · rw [hone hother] at hsplit'
          obtain ⟨-,_,hunchanged'⟩ := install_stopped hprepare hstarts.cleanup
            hsep.distinct hagrees hsplit' hbefore' hstop'
          exact hunchanged'.mp (h _ hreport rfl)
        · rw [hone hother] at hall
          exact absurd hall hswaps
      · exact fun h report _ _ =>
          hunchanged.mpr (h.stopped staged hprepare before entry rest hsplit hpre hstop)

/-- A world in which everything goes well, with new files full of the given byte. -/
def smoothWorld (byte : UInt8) : World where
  image := fun _ => none
  copy := fun _ => .done
  install := fun _ => none
  refuses := none
  free := 1000000
  fetch := fun _ => .bytes (List.replicate 1024 byte)
  checksum := fun _ => none
  sha256 := fun _ => ""
  write := fun _ => none
  verdict := .ok (some (true, ""))
  explain := id
  rename := fun _ => none
  move := fun _ => .done
  cleanup := none
  reload := .ok (some true)
  restore := fun _ => none
  reloadAgain := none

/-- The move of the second file fails. -/
def fullDisk : World :=
  { smoothWorld 2 with
    move := fun name => if name = "geosite_ru.dat" then .failed ⟨"OSError", "no space"⟩ none
      else .done }

/-- xray does not come back. -/
def deadXray : World := { smoothWorld 2 with reload := .ok (some false) }

/-- Both files are there. -/
def oldFiles : Dir := fun name =>
  if name = "geoip_ru.dat" ∨ name = "geosite_ru.dat" then some [1] else none

/-- The files were never there, but one was kept by an update before they were removed. -/
def keptFile : Dir := fun name => if name = "geoip_ru.dat.prev" then some [1] else none

/-- After a failed move the first file is new and the second is gone; after a failed reload a file
that was absent is an old one, and another is new. -/
theorem failed_update_changes_files :
    ¬AllOrNothing fullDisk oldFiles "ru" ∧ ¬AllOrNothing deadXray keptFile "ru" := by
  have hfiles : (datasets "ru").isSome=true := by decide
  obtain ⟨files,hdataset⟩ := isSome_iff_exists.mp hfiles
  have hnames : files.map GeoFile.name=["geoip_ru.dat", "geosite_ru.dat"] := by
    cases hdataset
    rfl
  constructor
  · intro h
    have hreport : (update fullDisk oldFiles "ru").1 = .ok (.refused "ru" "OSError: no space") := by
      decide +kernel
    have hsame := h files hdataset _ hreport rfl "geosite_ru.dat" (by simp [hnames])
    exact absurd hsame (by decide +kernel)
  · intro h
    have hreport : (update deadXray keptFile "ru").1 =
        .ok (.undone "ru" ["geoip_ru.dat", "geosite_ru.dat"]) := by
      decide +kernel
    have hsame := h files hdataset _ hreport rfl "geoip_ru.dat" (by simp [hnames])
    exact absurd hsame (by decide +kernel)

end Update

end Outcomes

end PiGwPanel.GeoData
