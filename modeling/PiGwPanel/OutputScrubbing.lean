import PiGwPanel.ConfigStore
import PiGwPanel.TextReplacement
import PiGwPanel.XraySupervisor

/-!
# Secrets in xray's output

`scrub_output` collects the secrets of a config and masks them in a text, longest
first; `status` serves the last characters xray wrote, scrubbed so. No secret is left
in a scrubbed text. What is served is the scrubbed end of a stream and not the end of
the scrubbed stream, so a secret that crosses the cut is served in part.
-/

namespace PiGwPanel.OutputScrubbing

open ConfigStore PyText StableFirstMatch List
open TextReplacement XraySupervisor

/-- `_SECRET_KEYS`. -/
def secretKeys : List String :=
  ["uuid", "id", "password", "publickey", "privatekey", "shortid", "shortids", "public_key",
    "private_key", "short_id", "short_ids"]

/-- A text that is masked is not empty. -/
abbrev SecretText := {text : String // text ≠ ""}

mutual

/-- `_add_secret`. -/
def addSecret : Json → List SecretText
  | .str value => if h : value = "" then [] else [⟨value, h⟩]
  | .arr items => addSecrets items
  | _ => []

/-- The loop of `_add_secret`. -/
def addSecrets : List Json → List SecretText
  | [] => []
  | item :: rest => addSecret item ++ addSecrets rest

end

mutual

/-- `_collect_secrets`. -/
def collectSecrets : Json → List SecretText
  | .obj fields => collectFields fields
  | .arr items => collectItems items
  | _ => []

/-- The loop over a mapping; a value under a secret key is descended into as well. -/
def collectFields : List (String × Json) → List SecretText
  | [] => []
  | (key, value) :: rest =>
    (if lowerText key ∈ secretKeys then addSecret value else []) ++ collectSecrets value ++
      collectFields rest

/-- The loop over a list. -/
def collectItems : List Json → List SecretText
  | [] => []
  | item :: rest => collectSecrets item ++ collectItems rest

end

/-- The order a set of texts is enumerated in. -/
structure SetOrder where
  enumerate : List SecretText → List SecretText
  perm : ∀ texts, (enumerate texts).Perm texts.eraseDups

/-- The secrets of a config, longest first. -/
def sortedSecrets (set : SetOrder) (cfg : Json) : List (List Char) :=
  (sortByKey (fun secret => OrderDual.toDual secret.val.length)
    (set.enumerate (collectSecrets cfg))).map fun secret => secret.val.toList

/-- What stands for a secret. -/
def mask : List Char := ['*', '*', '*']

/-- `scrub_output`. -/
def scrubOutput (set : SetOrder) (text : String) (cfg : Json) : String :=
  String.ofList (replaceEach id (sortedSecrets set cfg) mask text.toList)

section Complete

/-- The text is the value or stands in it through lists. -/
inductive Listed : Json → String → Prop
  | here (text : String) : Listed (.str text) text
  | item {items : List Json} {item : Json} {text : String} (hmem : item ∈ items)
      (h : Listed item text) : Listed (.arr items) text

/-- The text stands under a secret key somewhere in the value. -/
inductive Secret : Json → String → Prop
  | under {fields : List (String × Json)} {key text : String} {value : Json}
      (hmem : (key, value) ∈ fields) (hkey : lowerText key ∈ secretKeys)
      (h : Listed value text) : Secret (.obj fields) text
  | field {fields : List (String × Json)} {key text : String} {value : Json}
      (hmem : (key, value) ∈ fields) (h : Secret value text) : Secret (.obj fields) text
  | item {items : List Json} {item : Json} {text : String} (hmem : item ∈ items)
      (h : Secret item text) : Secret (.arr items) text

variable {text : SecretText} {value : Json} {items : List Json}

theorem mem_addSecrets (hmem : value∈items) (h : text∈addSecret value) :
    text∈addSecrets items := by
  induction items with
  | nil => cases hmem
  | cons item rest ih =>
    rw [addSecrets,mem_append]
    rcases mem_cons.mp hmem with rfl | hmem
    · exact .inl h
    · exact .inr (ih hmem)

theorem mem_addSecret (h : Listed value text.val) : text∈addSecret value := by
  generalize hplain : text.val=plain at h
  induction h with
  | here plain =>
    subst hplain
    simp [addSecret,text.property]
  | item hmem _ ih => exact mem_addSecrets hmem (ih hplain)

theorem mem_collectItems (hmem : value∈items)
    (h : text∈collectSecrets value) : text∈collectItems items := by
  induction items with
  | nil => cases hmem
  | cons item rest ih =>
    rw [collectItems,mem_append]
    rcases mem_cons.mp hmem with rfl | hmem
    · exact .inl h
    · exact .inr (ih hmem)

theorem mem_collectFields {fields : List (String × Json)} {key : String}
    (hmem : (key, value)∈fields)
    (h : (lowerText key∈secretKeys ∧ text∈addSecret value) ∨ text∈collectSecrets value) :
    text∈collectFields fields := by
  induction fields with
  | nil => cases hmem
  | cons field rest ih =>
    obtain ⟨name,other⟩ := field
    rw [collectFields,mem_append,mem_append]
    rcases mem_cons.mp hmem with heq | hmem
    · cases heq
      rcases h with ⟨hkey,h⟩ | h
      · exact .inl (.inl (by rw [if_pos hkey]; exact h))
      · exact .inl (.inr h)
    · exact .inr (ih hmem)

theorem mem_collectSecrets (h : Secret value text.val) : text∈collectSecrets value := by
  generalize hplain : text.val=plain at h
  induction h with
  | under hmem hkey h => exact mem_collectFields hmem (.inl ⟨hkey,mem_addSecret (hplain ▸ h)⟩)
  | field hmem _ ih => exact mem_collectFields hmem (.inr (ih hplain))
  | item hmem _ ih => exact mem_collectItems hmem (ih hplain)

variable {pattern : List Char} {set : SetOrder} {cfg : Json}

theorem mem_sortedSecrets : pattern∈sortedSecrets set cfg ↔
      ∃ secret∈collectSecrets cfg, secret.val.toList=pattern := by
  have hmem (secret : SecretText) :
      secret∈sortByKey (fun secret => OrderDual.toDual secret.val.length)
        (set.enumerate (collectSecrets cfg)) ↔ secret∈collectSecrets cfg := by
    rw [(sortByKey_perm _ _).mem_iff,(set.perm _).mem_iff,mem_eraseDups]
  simp only [sortedSecrets,mem_map,hmem]

theorem ne_nil_of_mem_sortedSecrets (h : pattern∈sortedSecrets set cfg) : pattern≠[] := by
  obtain ⟨secret,-,rfl⟩ := mem_sortedSecrets.mp h
  exact fun hnil => secret.property (String.toList_eq_nil_iff.mp hnil)

/-- Every text under a secret key is collected, and no collected secret without an asterisk is
left in the output. -/
theorem scrubOutput_complete (set : SetOrder) (cfg : Json) (text : String) :
    (∀ secret : SecretText, Secret cfg secret.val → secret ∈ collectSecrets cfg) ∧
    ∀ secret ∈ collectSecrets cfg, '*' ∉ secret.val.toList →
      ¬secret.val.toList <:+: (scrubOutput set text cfg).toList := by
  refine ⟨fun secret h => mem_collectSecrets h,fun secret hmem hclear h => ?_⟩
  rw [scrubOutput,String.toList_ofList] at h
  rw [← map_id (replaceEach _ _ _ _)] at h
  refine not_infix_replaceEach (fun p hp => ne_nil_of_mem_sortedSecrets hp) (by decide)
    (mem_sortedSecrets.mpr ⟨secret,hmem,rfl⟩) (fun c hc => ?_) h
  obtain rfl : c = '*' := by simpa [mask] using hc
  exact hclear

end Complete

section Served

/-! ### The end of a stream -/

/-- A character of the served text: its place in the stream, none for the mask. -/
abbrev Cell := Option ℕ × Char

/-- The cells of a stream. -/
def cells (stream : List Char) : List Cell := stream.zipIdx.map fun entry => (some entry.2, entry.1)

/-- The mask in cells. -/
def maskCells : List Cell := mask.map fun c => (none, c)

/-- What the chunks add up to. -/
def streamOf (chunks : List String) : List Char := chunks.flatMap String.toList

/-- The tail after the chunks of a child whose config was read. -/
def tailAfter (cfg : Json) (chunks : List String) : String :=
  chunks.foldl (captured (some cfg)) ""

/-- The cells of the tail. -/
def tailCells (chunks : List String) : List Cell :=
  (cells (streamOf chunks)).drop ((streamOf chunks).length - 8192)

/-- What `status` serves after the chunks, in cells. -/
def servedCells (set : SetOrder) (cfg : Json) (chunks : List String) : List Cell :=
  replaceEach Prod.snd (sortedSecrets set cfg) maskCells (tailCells chunks)

theorem map_snd_cells (stream : List Char) : (cells stream).map Prod.snd=stream := by
  rw [cells,map_map]
  exact zipIdx_map_fst 0 stream

theorem toList_tailAfter (cfg : Json) (chunks : List String) : (tailAfter cfg chunks).toList =
    (streamOf chunks).drop ((streamOf chunks).length-8192) := by
  have hstep (tail chunk : String) (written : List Char)
      (h : tail.toList=written.drop (written.length-8192)) :
      (captured (some cfg) tail chunk).toList =
        (written++chunk.toList).drop ((written++chunk.toList).length-8192) := by
    unfold captured
    split_ifs with hempty hnone
    · simpa [hempty] using h
    · cases hnone
    · have hlen := congrArg length h
      rw [length_drop,String.length_toList] at hlen
      have hdrop : written.length-8192+(tail.length+chunk.length-8192) =
          written.length+chunk.length-8192 := by omega
      rw [lastChars,String.toList_ofList,String.toList_append,String.length_append,h,
        ← drop_append_of_le_length (by omega),drop_drop,length_append, String.length_toList,hdrop]
  have hrun (tail : String) (written : List Char) (chunks : List String)
      (h : tail.toList=written.drop (written.length-8192)) :
      (chunks.foldl (captured (some cfg)) tail).toList =
        (written++streamOf chunks).drop ((written++streamOf chunks).length-8192) := by
    induction chunks generalizing tail written with
    | nil => simpa [streamOf] using h
    | cons chunk chunks ih =>
      rw [foldl_cons,ih _ (written++chunk.toList) (hstep tail chunk written h)]
      simp [streamOf]
  exact hrun "" [] chunks (by simp)

theorem map_snd_servedCells (set : SetOrder) (cfg : Json) (chunks : List String) :
    (servedCells set cfg chunks).map Prod.snd =
      (scrubOutput set (tailAfter cfg chunks) cfg).toList := by
  rw [scrubOutput,String.toList_ofList,toList_tailAfter]
  change (replaceEach (id ∘ Prod.snd) _ maskCells (tailCells chunks)).map Prod.snd=_
  rw [map_replaceEach,tailCells,map_drop,map_snd_cells]
  rfl

/-- No character of the stream that is served belongs to a secret in it. -/
def Hides (cfg : Json) (stream : List Char) (served : List Cell) : Prop :=
  ∀ place c, (some place, c) ∈ served → ∀ secret ∈ collectSecrets cfg, ∀ start,
    secret.val.toList <+: stream.drop start → place < start ∨ start + secret.val.length ≤ place

/-- The secret stands in the stream. -/
def StandsAt (cfg : Json) (stream : List Char) (start len : ℕ) : Prop :=
  ∃ secret ∈ collectSecrets cfg, secret.val.toList <+: stream.drop start ∧ secret.val.length = len

/-- Secrets stand in the stream inside or outside each other, and inside or outside what is
served; none that is searched for after one of them has an asterisk. -/
structure Uncrossed (cfg : Json) (stream : List Char) (first last : ℕ) : Prop where
  plain : ∀ start len, StandsAt cfg stream start len →
    ∀ secret ∈ collectSecrets cfg, secret.val.length ≤ len → '*' ∉ secret.val.toList
  whole : ∀ start len, StandsAt cfg stream start len → ∀ edge ∈ [first, last],
    edge ≤ start ∨ start + len ≤ edge
  nested : ∀ start len start' len', StandsAt cfg stream start len → StandsAt cfg stream start' len' →
    start + len ≤ start' ∨ start' + len' ≤ start ∨
      (start' ≤ start ∧ start + len ≤ start' + len') ∨ (start ≤ start' ∧ start' + len' ≤ start + len)

variable {set : SetOrder} {cfg : Json} {chunks later : List String}

theorem mem_stretch {stream : List Char} {start len : ℕ} {cell : Cell} :
    cell∈((cells stream).drop start).take len ↔ ∃ place, cell.1=some place ∧ start≤place ∧
      place < start+len ∧ stream[place]? = some cell.2 := by
  have hget (i : ℕ) : (cells stream)[i]? = stream[i]?.map fun c => (some i, c) := by
    simp [cells,getElem?_zipIdx,Function.comp_def]
  simp only [mem_iff_getElem?,getElem?_take,getElem?_drop,hget]
  constructor
  · rintro ⟨i,h⟩
    split_ifs at h with hi
    obtain ⟨c,hc,rfl⟩ := Option.map_eq_some_iff.mp h
    exact ⟨start + i,rfl,by omega,by omega,hc⟩
  · rintro ⟨place,hplace,hlow,hhigh,hc⟩
    refine ⟨place-start,?_⟩
    have hsum : start+(place-start)=place := by omega
    rw [if_pos (by omega),hsum,hc,Option.map_some,← hplace]

theorem tailCells_eq (chunks : List String) : tailCells chunks=((cells (streamOf chunks)).drop
    ((streamOf chunks).length-8192)).take (streamOf chunks).length := by
  rw [take_of_length_le (by simp [cells])]
  rfl

theorem stretch_of_occurs {u : List Cell} (later : List String)
    (h : Occurs Prod.snd (sortedSecrets set cfg) (tailCells chunks) u) :
    ∃ start, u=((cells (streamOf chunks)).drop start).take u.length ∧
      StandsAt cfg (streamOf (chunks++later)) start u.length := by
  obtain ⟨⟨front,back,hsplit⟩,hmem⟩ := h
  obtain ⟨secret,hsecret,hlook⟩ := mem_sortedSecrets.mp hmem
  have hu : u=((cells (streamOf chunks)).drop
      ((streamOf chunks).length-8192+front.length)).take u.length := by
    rw [← drop_drop,← tailCells,← hsplit,append_assoc,drop_left,take_left]
  refine ⟨_,hu,secret,hsecret,?_,?_⟩
  · rw [hlook,hu,map_take,map_drop,map_snd_cells,streamOf,streamOf, flatMap_append]
    exact ( take_prefix _ _).trans ((prefix_append _ _).drop _)
  · rw [← String.length_toList,hlook,length_map]

theorem nested_tail (h : Uncrossed cfg (streamOf (chunks++later))
    ((streamOf chunks).length-8192) (streamOf chunks).length) :
    Nested Prod.snd (sortedSecrets set cfg) (tailCells chunks) := by
  intro u v hu hv cell hcu hcv
  obtain ⟨start,hu,hstands⟩ := stretch_of_occurs later hu
  obtain ⟨start',hv,hstands'⟩ := stretch_of_occurs later hv
  generalize u.length=len at hu hstands
  generalize v.length=len' at hv hstands'
  subst hu hv
  obtain ⟨place,hplace,hlow,hhigh,-⟩ := mem_stretch.mp hcu
  obtain ⟨place',hplace',hlow',hhigh',-⟩ := mem_stretch.mp hcv
  obtain rfl : place=place' := Option.some.inj (hplace.symm.trans hplace')
  rcases h.nested start len start' len' hstands hstands' with hout | hout | hin | hin
  · omega
  · omega
  · refine .inl fun cell hcell => ?_
    obtain ⟨q,hq,hqlow,hqhigh,hget⟩ := mem_stretch.mp hcell
    exact mem_stretch.mpr ⟨q,hq,by omega,by omega,hget⟩
  · refine .inr fun cell hcell => ?_
    obtain ⟨q,hq,hqlow,hqhigh,hget⟩ := mem_stretch.mp hcell
    exact mem_stretch.mpr ⟨q,hq,by omega,by omega,hget⟩

theorem once_tailCells (chunks : List String) : Once maskCells (tailCells chunks) := by
  have hplaces : ((cells (streamOf chunks)).map Prod.fst).Nodup := by
    have hmap : (cells (streamOf chunks)).map Prod.fst =
        (range' 0 (streamOf chunks).length).map some := by
      rw [cells,map_map,← zipIdx_map_snd 0 (streamOf chunks),map_map]
      rfl
    rw [hmap]
    exact (nodup_range' _).map (Option.some_injective ℕ)
  refine List.Pairwise.imp (fun hne heq => absurd heq hne) ?_
  exact List.Nodup.sublist (drop_sublist _ _) (List.Nodup.of_map _ hplaces)

/-- What is served after any chunks is the scrubbed tail, and it shows no character of a secret
of the stream as long as no secret crosses another one or an end of the tail. -/
theorem served_hides (set : SetOrder) (cfg : Json) (chunks later : List String)
    (h : Uncrossed cfg (streamOf (chunks ++ later)) ((streamOf chunks).length - 8192)
      (streamOf chunks).length) :
    (servedCells set cfg chunks).map Prod.snd =
      (scrubOutput set (tailAfter cfg chunks) cfg).toList ∧
    Hides cfg (streamOf (chunks ++ later)) (servedCells set cfg chunks) := by
  refine ⟨map_snd_servedCells set cfg chunks,fun place c hserved secret hsecret start hstart => ?_⟩
  by_contra hinside
  have hfilled (p : List Char) (hp : p∈sortedSecrets set cfg) := ne_nil_of_mem_sortedSecrets hp
  have hmask : maskCells≠[] := by decide
  have htail : (some place, c)∈tailCells chunks :=
    (mem_replaceEach hfilled hserved).resolve_left (by simp [maskCells])
  obtain ⟨q,hq,hlow,-,hget⟩ := mem_stretch.mp (tailCells_eq chunks ▸ htail)
  obtain rfl : place=q := Option.some.inj hq
  have hlast : place<(streamOf chunks).length := (List.getElem?_eq_some_iff.mp hget).1
  have hedges := h.whole start secret.val.length ⟨secret,hsecret,hstart,rfl⟩
  have hfst := hedges ((streamOf chunks).length-8192) mem_cons_self
  have hend := hedges (streamOf chunks).length (by simp)
  have hread : ((streamOf chunks).drop start).take secret.val.length=secret.val.toList := by
    obtain ⟨rest,hrest⟩ := hstart
    rw [streamOf,flatMap_append,← streamOf,drop_append_of_le_length (by omega)] at hrest
    have htake := congrArg (take secret.val.length) hrest
    rw [take_left' (String.length_toList),
      take_append_of_le_length (by rw [length_drop]; omega)] at htake
    exact htake.symm
  refine gone_of_nested ?_ hfilled hmask (once_tailCells chunks) (nested_tail h)
    (u := ((cells (streamOf chunks)).drop start).take secret.val.length) ⟨?_,?_⟩
    (mem_stretch.mpr ⟨place,rfl,by omega,by omega,hget⟩) ?_ hserved
  · refine pairwise_map.mpr ((sortByKey_pairwise _ _).imp fun hle => ?_)
    simpa only [String.length_toList] using OrderDual.toDual_le_toDual.mp hle
  · have hsum : start=(streamOf chunks).length-8192+(start-((streamOf chunks).length-8192)) := by
      omega
    rw [hsum,← drop_drop]
    exact ( take_prefix _ _).isInfix.trans (drop_suffix _ _).isInfix
  · rw [map_take,map_drop,map_snd_cells,hread]
    exact mem_sortedSecrets.mpr ⟨secret,hsecret,rfl⟩
  · intro v hv p hp hshort cell hcell
    obtain ⟨_,-,hstands⟩ := stretch_of_occurs later hv
    obtain ⟨other,hother,rfl⟩ := mem_sortedSecrets.mp hp
    obtain ⟨star,hstar,rfl⟩ := mem_map.mp hcell
    obtain rfl : star = '*' := by simpa [mask] using hstar
    exact h.plain _ _ hstands other hother (by rwa [← String.length_toList])

/-- A set that is enumerated as it was filled. -/
def filledOrder : SetOrder where
  enumerate := List.eraseDups
  perm := fun _ => List.Perm.refl _

/-- A config with one client. -/
def clientConfig : Json := .obj [("clients", .arr [.obj [("id", .str "abcd")]])]

/-- When more than the tail holds follows an id, its end is served. -/
theorem served_id_end : ∃ more, ¬Hides clientConfig (streamOf ["ab", "cd", more])
    (servedCells filledOrder clientConfig ["ab", "cd", more]) := by
  obtain ⟨filler,hfiller,hfree⟩ : ∃ filler : List Char, filler.length=8190 ∧ 'a' ∉ filler :=
    ⟨replicate 8190 'x',length_replicate, fun h => absurd (eq_of_mem_replicate h) (by decide)⟩
  refine ⟨String.ofList filler,fun h => ?_⟩
  have hstream : streamOf ["ab", "cd",String.ofList filler]=['a', 'b', 'c', 'd']++filler := by
    simp [streamOf,flatMap_cons]
  have hlen : (streamOf ["ab", "cd",String.ofList filler]).length=8194 := by
    simp [hstream,hfiller]
  have hsecrets : sortedSecrets filledOrder clientConfig=[['a', 'b', 'c', 'd']] := by
    decide +kernel
  have hserved : servedCells filledOrder clientConfig ["ab", "cd",String.ofList filler] =
      tailCells ["ab", "cd",String.ofList filler] := by
    have htail : 'a' ∉ (tailCells ["ab", "cd",String.ofList filler]).map Prod.snd := by
      rw [tailCells,map_drop,map_snd_cells,hlen,hstream]
      simp [hfree]
    rw [servedCells,hsecrets]
    refine replaceEach_eq_self (forall_mem_singleton.mpr fun h => ?_)
    exact htail (h.subset mem_cons_self)
  have hshown : ((some 2, 'c') : Cell) ∈
      servedCells filledOrder clientConfig ["ab", "cd",String.ofList filler] := by
    rw [hserved,tailCells_eq,hlen]
    exact mem_stretch.mpr ⟨2,rfl,by omega,by omega,by rw [hstream]; rfl⟩
  have hsecret : (⟨"abcd",by decide⟩ : SecretText)∈collectSecrets clientConfig := by
    decide +kernel
  have hout := h 2 'c' hshown _ hsecret 0 (by rw [hstream]; exact prefix_append _ _)
  exact absurd hout (by decide)

/-- A whole id at the end of more than the tail holds is masked, also where two chunks cut it. -/
theorem served_hides_id : ∃ more : String, 8192 < more.length ∧
    Hides clientConfig (streamOf [more, "ab", "cd"])
      (servedCells filledOrder clientConfig [more, "ab", "cd"]) := by
  obtain ⟨filler,hfiller,hfree⟩ : ∃ filler : List Char, filler.length=9000 ∧ 'a' ∉ filler :=
    ⟨replicate 9000 'x',length_replicate, fun h => absurd (eq_of_mem_replicate h) (by decide)⟩
  have hstream : streamOf [String.ofList filler, "ab", "cd"]=filler++['a', 'b', 'c', 'd'] := by
    simp [streamOf,flatMap_cons]
  have hsecrets : ∀ secret∈collectSecrets clientConfig, secret.val = "abcd" := by decide +kernel
  have hstands (start len : ℕ)
      (h : StandsAt clientConfig (filler++['a', 'b', 'c', 'd']) start len) :
      start=9000 ∧ len=4 := by
    obtain ⟨secret,hmem,⟨rest,hrest⟩,rfl⟩ := h
    rw [hsecrets secret hmem] at hrest ⊢
    refine ⟨?_,by decide⟩
    have hlen := congrArg length hrest
    have hfst := congrArg head? hrest
    simp only [head?_drop,length_append,length_drop,hfiller] at hfst hlen
    by_contra hne
    have hpre : start<filler.length := by
      simp at hlen
      omega
    rw [getElem?_append_left hpre] at hfst
    exact hfree (mem_of_getElem? hfst.symm)
  refine ⟨String.ofList filler,by simp [hfiller],
    (served_hides filledOrder clientConfig [String.ofList filler, "ab", "cd"] [] ?_).2⟩
  rw [append_nil,hstream,length_append,hfiller]
  refine ⟨?_,?_,?_⟩
  · intro _ _ _ secret hmem _
    rw [hsecrets secret hmem]
    decide
  · intro start len h edge hedge
    obtain ⟨rfl,rfl⟩ := hstands start len h
    simp at hedge
    omega
  · intro start len start' len' h h'
    obtain ⟨rfl,rfl⟩ := hstands start len h
    obtain ⟨rfl,rfl⟩ := hstands start' len' h'
    omega

end Served

end PiGwPanel.OutputScrubbing
