import PiGwPanel.TrafficRecorder

/-!
# The total of data used

Over every sequence of readings that do not decrease, with flushes that fail
anywhere and a panel that dies anywhere, no byte is counted twice and none is
lost: what is on record covers the counters on record, and what the running
recorder still holds covers the rest up to its last reading. The bytes of a
reading a dead process had not written yet are found again by the first reading
of the next one, which starts from the counters on record.
-/

namespace PiGwPanel.DataUsed

open AnsweredProgram TrafficRecorder Prog

/-- What the accounting of the total is about. -/
structure Account where
  prevAbs : Option Bytes
  pending : Bytes
  records : Records
  (last began : Option Bytes)
  taken : Bool

/-- The account of a panel. -/
def account (panel : Panel) : Account where
  prevAbs := panel.recorder.prevAbs
  pending := panel.recorder.pending
  records := panel.records
  last := panel.last
  began := panel.began
  taken := panel.taken

/-- The total on record covers the counters on record, from where counting began. -/
structure Stored (a : Account) : Prop where
  total : ∃ used, dataUsed a.records = some used
  unused : loadProxyBaseline a.records = none → dataUsed a.records = some 0
  covers : ∀ base, loadProxyBaseline a.records = some base →
    ∃ began last, a.began = some began ∧ a.last = some last ∧ base ≤ last ∧
      dataUsed a.records = some (base - began)

theorem Stored.congr {a b : Account} (h : Stored a) (hrecords : b.records=a.records)
    (hlast : b.last=a.last) (hbegan : b.began=a.began) : Stored b := by
  refine ⟨?_,?_,?_⟩
  · rw [hrecords]
    exact h.total
  · rw [hrecords]
    exact h.unused
  · rw [hrecords,hlast,hbegan]
    exact h.covers

/-- The total and the pending bytes cover the counters seen last. -/
structure Balanced (a : Account) : Prop where
  blank : a.prevAbs = none → a.pending = 0 ∧ a.taken = false ∧ loadProxyBaseline a.records = none
  covers : ∀ before, a.prevAbs = some before →
    ∃ used began last, dataUsed a.records = some used ∧ a.began = some began ∧
      a.last = some last ∧ before ≤ last ∧ used + a.pending = before - began
  taken : a.taken = true → a.prevAbs = a.last
  restarted : a.taken = false → a.pending = 0

/-- The account of a running recorder. -/
structure Sound (a : Account) : Prop where
  stored : Stored a
  balanced : Balanced a

section Tasks

variable {A : Answer → Prop} {panel : Panel} {E : Panel → Prop}

/-- The account is left as it is. -/
def Same (panel t : Panel) : Prop := account t = account panel

theorem call_meets : Meets A call panel (fun t => t=panel) (fun t => t=panel)
    fun _ t => t=panel := by
  refine .ask_bind rfl fun reply _ => ?_
  split
  · exact .pure rfl
  · exact .raise rfl

theorem noteFlush_meets : Meets A noteFlush panel (Same panel) E fun _ t => Same panel t :=
  .ask_bind rfl fun _ _ => .update rfl

theorem deliver_meets (buckets : List Bucket) : Meets A (deliver buckets) panel (Same panel)
    (Same panel) fun _ t => Same panel t := by
  induction buckets generalizing panel with
  | nil => exact .pure rfl
  | cons bucket rest ih =>
    have hcall : Meets A call panel (Same panel) (Same panel) fun _ t => t=panel :=
      call_meets.mono (fun t ht => congrArg account ht) (fun t ht => congrArg account ht)
        fun _ _ ht => ht
    refine hcall.bind fun _ t ht => .update_bind ?_
    subst ht
    exact ih

theorem flushMinute_meets (includeCurrent : Bool) : Meets A (flushMinute includeCurrent) panel
    (Same panel) (Same panel) fun _ t => Same panel t := by
  have hclosed : account { panel with recorder :=
      if includeCurrent then panel.recorder.closeMinute else panel.recorder }=account panel := by
    cases includeCurrent with
    | false => rfl
    | true => simp [account]
  refine .update_bind (.read_bind ?_)
  exact (deliver_meets _).mono (fun t ht => ht.trans hclosed) (fun t ht => ht.trans hclosed)
    fun _ t ht => ht.trans hclosed

variable {before used : Bytes} {records : Records} {totals : Option Bytes}

theorem onBaseline_meets :
    Meets A (onBaseline (some before) records) panel (fun t => t=panel) (fun t => t=panel)
      fun out t => t=panel ∧ out=saveProxyBaseline before records :=
  call_meets.bind fun _ _ ht => .pure ⟨ht,rfl⟩

theorem onTotal_meets {pending : Bytes} (hused : dataUsed records=some used) :
    Meets A (onTotal pending records) panel (fun t => t=panel) (fun t => t=panel)
      fun out t => t=panel ∧ dataUsed out=some (used+pending) ∧
        out.baseline=records.baseline := by
  unfold onTotal
  split
  next hzero =>
    have hsum : used+pending=used := by
      rw [hzero]
      ext <;> simp
    exact .pure ⟨rfl,by rw [hsum,hused],rfl⟩
  · obtain ⟨after,hafter,htotal,hbaseline⟩ := dataUsed_addDataUsed hused pending
    refine call_meets.bind fun _ t ht => ?_
    rw [hafter]
    exact .pure ⟨ht,htotal,hbaseline⟩

theorem loadProxyBaseline_congr {other : Records} (h : records.baseline=other.baseline) :
    loadProxyBaseline records=loadProxyBaseline other := by
  unfold loadProxyBaseline
  rw [h]

/-- The account once the pending bytes are in the total and the counters on record. -/
theorem sound_written {a : Account} (h : Sound a) (hpre : a.prevAbs=some before)
    (hused : dataUsed a.records=some used) (htotal : dataUsed records=some (used+a.pending))
    (hbase : loadProxyBaseline records=some before) :
    Sound { a with records := records, pending := 0 } := by
  obtain ⟨found,began,last,hfound,hbegan,hlast,hle,hsum⟩ := h.balanced.covers before hpre
  have hsame : found=used := Option.some.inj (hfound.symm.trans hused)
  have htotal' : dataUsed records=some (before-began) := by
    rw [htotal,← hsum,hsame]
  have hnothing : before-began+0=before-began := by ext <;> simp
  refine ⟨⟨⟨_,htotal⟩,fun hnone => ?_,fun base hload => ?_⟩,
    ⟨fun hnone => ?_,fun other hother => ?_,h.balanced.taken,fun _ => rfl⟩⟩
  · rw [hnone] at hbase
    cases hbase
  · have hwritten : base=before := Option.some.inj (hload.symm.trans hbase)
    rw [hwritten]
    exact ⟨began,last,hbegan,hlast,hle,htotal'⟩
  · rw [hpre] at hnone
    cases hnone
  · have hseen : other=before := Option.some.inj (hother.symm.trans hpre)
    rw [hseen]
    exact ⟨before-began,began,last,htotal',hbegan,hlast,hle,hnothing⟩

/-- A flush writes everything, or nothing and raises; where the process dies in it, what is on
record adds up. -/
theorem flushTotal_meets (h : Sound (account panel)) :
    Meets A flushTotal panel (fun t => Stored (account t)) (fun t => Sound (account t))
      fun _ t => Sound (account t) := by
  have hsame {t : Panel} (ht : Same panel t) : Sound (account t) := ht ▸ h
  refine .read_bind ?_
  split
  · exact noteFlush_meets.mono (fun t ht => (hsame ht).stored) (fun _ ht => ht)
      fun _ t ht => hsame ht
  next hwrite =>
    cases hpre : panel.recorder.prevAbs with
    | none => exact absurd ⟨hpre,(h.balanced.blank hpre).1⟩ hwrite
    | some before =>
      obtain ⟨used,hused⟩ := h.stored.total
      unfold writeTotal
      rw [hpre]
      have hstop : ∀ t, t=panel → Stored (account t) := fun t ht => ht ▸ h.stored
      have hraise : ∀ t, t=panel → Sound (account t) := fun t ht => ht ▸ h
      refine (onBaseline_meets.weaken hstop hraise).bind fun saved t ht => ?_
      obtain ⟨rfl,rfl⟩ := ht
      have hsaved : dataUsed (saveProxyBaseline before t.records)=some used := hused
      refine ((onTotal_meets hsaved).weaken hstop hraise).bind fun records u hu => ?_
      obtain ⟨rfl,htotal,hbaseline⟩ := hu
      have hbase : loadProxyBaseline records=some before :=
        (loadProxyBaseline_congr hbaseline).trans (loadProxyBaseline_saveProxyBaseline _ _)
      have hwritten := sound_written h hpre hused htotal hbase
      refine .bind (P := fun _ v => account v = { account u with records := records })
        ((call_meets.weaken hstop hraise).bind fun _ v hv => .update (by rw [hv]; rfl))
        fun _ v hv => ?_
      refine .update_bind ?_
      have hcleared : account { v with recorder := { v.recorder with pending := 0 } } =
          { account u with records := records, pending := 0 } :=
        congrArg (fun a : Account => { a with pending := 0 }) hv
      have hnoted {w : Panel}
          (hw : Same { v with recorder := { v.recorder with pending := 0 } } w) :
          Sound (account w) := by
        rw [hw,hcleared]
        exact hwritten
      exact noteFlush_meets.mono (fun w hw => (hnoted hw).stored) (fun _ hw => hw)
        fun _ w hw => hnoted hw

/-- A failure that is only logged leaves what the task may raise in. -/
theorem quietly_meets {task : Work Unit} {K X : Panel → Prop}
    (h : Meets A task panel K X fun _ t => X t) :
    Meets A (quietly task) panel K E fun _ t => X t := by
  have hcaught : Meets A (attempt task) panel K E fun _ t => X t :=
    h.attempt (fun _ _ ht => ht) fun _ _ ht => ht
  exact hcaught.bind fun _ _ ht => .pure ht

variable (h : Sound (account panel))

include h

theorem flushWhenDue_meets (now : ℚ) :
    Meets A (flushWhenDue now) panel (fun t => Stored (account t)) (fun t => Sound (account t))
      fun _ t => Sound (account t) := by
  refine .read_bind ?_
  split
  · exact quietly_meets (flushTotal_meets h)
  · exact .pure h

theorem sound_read {reading : Bytes} (hrising : ∀ last∈panel.last, last ≤ reading) (now : ℤ) :
    Sound (account (panel.read reading now)) := by
  have hseen : (account (panel.read reading now)).prevAbs=some reading :=
    prevAbs_take panel.recorder reading now
  have hlater : ∀ last, panel.last=some last → last ≤ reading := hrising
  refine ⟨⟨h.stored.total,h.stored.unused,fun base hbase => ?_⟩,
    ⟨fun hnone => ?_,fun before hpre => ?_,fun _ => hseen,nofun⟩⟩
  · obtain ⟨began,last,hbegan,hlast,hle,htotal⟩ := h.stored.covers base hbase
    have hsome : panel.recorder.prevAbs≠none := fun hnone => by
      have hclash : some base=none := hbase.symm.trans (h.balanced.blank hnone).2.2
      cases hclash
    have hkept : (account (panel.read reading now)).began=some began := (if_neg hsome).trans hbegan
    have hreading := hlater last hlast
    exact ⟨began,reading,hkept,rfl,⟨hle.1.trans hreading.1,hle.2.trans hreading.2⟩,htotal⟩
  · rw [hseen] at hnone
    cases hnone
  · have hreading : before=reading := Option.some.inj (hpre.symm.trans hseen)
    rw [hreading]
    cases hprev : panel.recorder.prevAbs with
    | none =>
      have hbegan : (account (panel.read reading now)).began=some reading := if_pos hprev
      obtain ⟨hpend,-,hnobase⟩ := h.balanced.blank hprev
      have hzero : (account (panel.read reading now)).pending=0 :=
        (pending_take_first hprev reading now).trans hpend
      have hsum : (0 : Bytes)+0=reading-reading := by ext <;> simp
      refine ⟨0,reading,reading,h.stored.unused hnobase,hbegan,rfl,⟨le_rfl,le_rfl⟩,?_⟩
      rw [hzero]
      exact hsum
    | some prev =>
      obtain ⟨used,began,last,hused,hbegan,hlast,hle,hsum⟩ := h.balanced.covers prev hprev
      have hnext := hlater last hlast
      have hgrown : growthOf prev reading=reading-prev :=
        growthOf_of_le ⟨hle.1.trans hnext.1,hle.2.trans hnext.2⟩
      have hsome : panel.recorder.prevAbs≠none := by simp [hprev]
      have hkept : (account (panel.read reading now)).began=some began :=
        (if_neg hsome).trans hbegan
      have hpend : (account (panel.read reading now)).pending =
          panel.recorder.pending+(reading-prev) := by
        rw [← hgrown]
        exact pending_take hprev reading now
      refine ⟨used,began,reading,hused,hkept,rfl,⟨le_rfl,le_rfl⟩,?_⟩
      have hup := congrArg Bytes.up hsum
      have hdown := congrArg Bytes.down hsum
      have hshown : (account panel).pending=panel.recorder.pending := rfl
      simp only [Bytes.up_add,Bytes.down_add,Bytes.up_sub,Bytes.down_sub,hshown] at hup hdown
      rw [hpend]
      ext
      · simp only [Bytes.up_add,Bytes.up_sub]
        omega
      · simp only [Bytes.down_add,Bytes.down_sub]
        omega

/-- A call changes nothing, whatever it answers. -/
theorem call_then {next : Answer → Work Unit}
    (hnext : ∀ reply, Meets A (next reply) panel (fun t => Stored (account t))
      (fun t => Sound (account t)) fun _ t => Sound (account t)) :
    Meets A (call >>= next) panel (fun t => Stored (account t)) (fun t => Sound (account t))
      fun _ t => Sound (account t) := by
  have hcall : Meets A call panel (fun t => Stored (account t)) (fun t => Sound (account t))
      fun _ t => t=panel :=
    call_meets.weaken (fun t ht => ht ▸ h.stored) fun t ht => ht ▸ h
  refine hcall.bind fun reply t ht => ?_
  rw [ht]
  exact hnext reply

section

variable (hrising : ∀ reading ∈ totals, ∀ last ∈ panel.last, last ≤ reading)

include hrising

/-- A tick with a reading not below the last one keeps the account sound. -/
theorem accumulateTotal_meets (now : ℤ) :
    Meets A (accumulateTotal totals now) panel (fun t => Stored (account t))
      (fun t => Sound (account t)) fun _ t => Sound (account t) := by
  cases totals with
  | none => exact .pure h
  | some reading =>
    refine .update_bind ?_
    have hread := sound_read h (hrising reading rfl) now
    refine (flushWhenDue_meets hread _).bind fun _ t ht => ?_
    have hsame {u : Panel} (hu : Same t u) : Sound (account u) := hu ▸ ht
    exact quietly_meets ((flushMinute_meets false).mono (fun u hu => (hsame hu).stored)
      (fun u hu => hsame hu) fun _ u hu => hsame hu)

theorem recordSample_meets : Meets A (recordSample totals) panel (fun t => Stored (account t))
      (fun t => Sound (account t)) fun _ t => Sound (account t) := by
  refine .ask_bind h.stored fun reply _ => .read_bind (.update_bind ?_)
  refine accumulateTotal_meets ?_ ?_ _
  · exact h
  · exact hrising

theorem tick_meets : Meets A (tick totals) panel (fun t => Stored (account t)) E
      fun _ t => Sound (account t) := by
  refine quietly_meets (call_then h fun _ => call_then h fun enabled => ?_)
  split
  · refine call_then h fun running => ?_
    split
    · exact call_then h fun _ => recordSample_meets h hrising
    · exact .pure h
  · exact .pure h

end

theorem flushOnStop_meets : Meets A flushOnStop panel (fun t => Stored (account t)) E
      fun _ t => Sound (account t) := by
  refine quietly_meets ((flushTotal_meets h).bind fun _ t ht => ?_)
  have hsame {u : Panel} (hu : Same t u) : Sound (account u) := hu ▸ ht
  exact (flushMinute_meets true).mono (fun u hu => (hsame hu).stored) (fun u hu => hsame hu)
    fun _ u hu => hsame hu

end Tasks

section Runs

/-- What holds of a box: the records add up, and so does a running recorder. -/
structure Kept (box : Box) : Prop where
  stored : Stored (account box.panel)
  running : box.up = true → Sound (account box.panel)

/-- The readings of an event are not below the last one taken. -/
def Rising (box : Box) : Event → Prop
  | .tick totals _ => ∀ reading ∈ totals, ∀ last ∈ box.panel.last, last ≤ reading
  | _ => True

variable {box : Box}

theorem kept_perform (h : Kept box) {task : Work Unit} (answers : List Answer)
    (htask : Sound (account box.panel) → Meets (fun _ => True) task box.panel
      (fun t => Stored (account t)) (fun t => Sound (account t)) fun _ t => Sound (account t)) :
    Kept (box.perform task answers) := by
  unfold Box.perform
  split
  next hup =>
    have hend := (htask (h.running hup) answers fun _ _ => trivial).2
    dsimp only
    cases houtcome : (task answers box.panel).outcome with
    | done value =>
      rw [houtcome] at hend
      exact ⟨hend.stored,fun _ => hend⟩
    | raised error =>
      rw [houtcome] at hend
      exact ⟨hend.stored,fun _ => hend⟩
    | killed =>
      rw [houtcome] at hend
      exact ⟨hend,fun hdown => absurd hdown (by simp)⟩
  · exact h

theorem balanced_start {a : Account} (h : Stored a)
    (hprev : a.prevAbs=loadProxyBaseline a.records) (hpend : a.pending=0)
    (htaken : a.taken=false) : Balanced a where
  blank hnone := ⟨hpend,htaken,hprev.symm.trans hnone⟩
  covers base hbase := by
    obtain ⟨began,last,hbegan,hlast,hle,htotal⟩ := h.covers base (hprev.symm.trans hbase)
    have hsum : base-began+0=base-began := by ext <;> simp
    rw [hpend]
    exact ⟨base-began,began,last,htotal,hbegan,hlast,hle,hsum⟩
  taken hyes := absurd (htaken.symm.trans hyes) (by decide)
  restarted _ := hpend

theorem kept_boot (h : Kept box) : Kept box.boot := by
  unfold Box.boot
  split
  · exact h
  · have hstored : Stored (account { box.panel with
        recorder := Recorder.start (loadProxyBaseline box.panel.records), taken := false }) :=
      h.stored.congr (Eq.refl box.panel.records) (Eq.refl box.panel.last) (Eq.refl box.panel.began)
    exact ⟨hstored,fun _ => ⟨hstored,balanced_start hstored rfl rfl rfl⟩⟩

/-- Every event with a reading that is not below the last one keeps the accounts. -/
theorem kept_step (box : Box) (event : Event) (hevent : Rising box event) (h : Kept box) :
    Kept (step box event) := by
  cases event with
  | tick totals answers => exact kept_perform h answers fun hsound => tick_meets hsound hevent
  | stop answers => exact kept_perform h answers fun hsound => flushOnStop_meets hsound
  | crash => exact ⟨h.stored,nofun⟩
  | start => exact kept_boot h

theorem kept_newBox : Kept newBox := by
  have hnone : loadProxyBaseline Records.empty=none := by decide +kernel
  have hzero : dataUsed Records.empty=some 0 := by decide
  refine ⟨⟨⟨0,hzero⟩,fun _ => hzero,fun base hbase => ?_⟩, nofun⟩
  have hclash : some base=none := hbase.symm.trans hnone
  cases hclash

/-- The total on record and the bytes in memory, against the counters. -/
structure Accounted (box : Box) (base began used : Bytes) : Prop where
  /-- The total is the difference of the counters on record and those counting began at; it is so
  right after a restart, and at any other moment. -/
  stored : used = base - began
  /-- Once the running recorder has taken a reading, the total and its pending bytes reach up to
  the last reading taken. -/
  counted : box.up = true → box.panel.taken = true → ∃ last, box.panel.last = some last ∧
    used + box.panel.recorder.pending = last - began
  /-- Until then it holds nothing. -/
  restarted : box.up = true → box.panel.taken = false → box.panel.recorder.pending = 0

/-- Once counters are on record, after every run of readings that do not decrease, of flushes that
fail anywhere, crashes and restarts, every byte is accounted for. -/
theorem data_used_accounted (events : List Event) (h : EveryStep step Rising newBox events)
    (base : Bytes) (hbase : loadProxyBaseline (run step newBox events).panel.records = some base) :
    ∃ began used, (run step newBox events).panel.began = some began ∧
      dataUsed (run step newBox events).panel.records = some used ∧
      Accounted (run step newBox events) base began used := by
  have hkept : Kept (run step newBox events) := run_keeps_of kept_step h kept_newBox
  generalize run step newBox events=box at hbase hkept
  obtain ⟨began,last,hbegan,hlast,-,htotal⟩ := hkept.stored.covers base hbase
  refine ⟨began,base-began,hbegan,htotal,rfl,fun hup htaken => ?_,fun hup htaken => ?_⟩
  · have hsound := hkept.running hup
    have hseen : box.panel.recorder.prevAbs=some last := (hsound.balanced.taken htaken).trans hlast
    obtain ⟨used,began',last',hused,hbegan',-,-,hsum⟩ := hsound.balanced.covers last hseen
    have hsame : began'=began := Option.some.inj (hbegan'.symm.trans hbegan)
    have htotal' : used=base-began := Option.some.inj (hused.symm.trans htotal)
    rw [hsame,htotal'] at hsum
    exact ⟨last,hlast,hsum⟩
  · exact (hkept.running hup).balanced.restarted htaken

instance (box : Box) (event : Event) : Decidable (Rising box event) := by
  cases event <;> dsimp only [Rising] <;> infer_instance

/-- A call that is answered at the given time. -/
def answeredAt (clock : ℚ) : Answer := ⟨true, true, clock⟩

/-- Every call of a tick is answered, at the given time. -/
def smoothly (clock : ℚ) : List Answer := List.replicate 12 (answeredAt clock)

/-- Counters are read and written, a commit fails, a reading is lost with its process, and the next
process takes over. -/
def sampleEvents : List Event :=
  [.start, .tick (some ⟨7, 3⟩) (smoothly 100), .tick (some ⟨107, 13⟩) (smoothly 140),
    .tick (some ⟨207, 33⟩) ((smoothly 180).set 7 ⟨false, false, 180⟩),
    .tick (some ⟨257, 43⟩) (smoothly 181), .crash, .start,
    .tick (some ⟨307, 53⟩) (smoothly 190)]

theorem data_used_accounted_sample : EveryStep step Rising newBox sampleEvents ∧
      loadProxyBaseline (run step newBox sampleEvents).panel.records = some ⟨307, 53⟩ ∧
      ∃ began used, (run step newBox sampleEvents).panel.began = some began ∧
        dataUsed (run step newBox sampleEvents).panel.records = some used ∧
        Accounted (run step newBox sampleEvents) ⟨307, 53⟩ began used := by
  have hrising : EveryStep step Rising newBox sampleEvents := by decide +kernel
  have hbase : loadProxyBaseline (run step newBox sampleEvents).panel.records =
      some ⟨307,53⟩ := by decide +kernel
  exact ⟨hrising,hbase,data_used_accounted sampleEvents hrising ⟨307,53⟩ hbase⟩

end Runs

end PiGwPanel.DataUsed
