import PiGwPanel.DelimitedText
import PiGwPanel.DurableRecords

/-!
# Journalled sets on a store that keeps some of the lines

`write_set` journals the complete content of a set before it replaces the record,
and `read_set` reads the two as one. Here the store is taken at its worst: a write
may raise, change nothing, or keep only some of the lines it was given. The first
thing a call does is to replace the journal, and after a call that failed half-way
the journal may be the only place that names an entry. Such an entry is lost
where the store keeps only other lines of the journal; nothing else is ever lost.
-/

namespace PiGwPanel.JournalledSets

open AnsweredProgram PyText DelimitedText List Prog
open DurableRecords (expected mem_expected_iff)

section Text

/-- `Record.lines`: the stripped lines, without blanks or repeats. -/
def recordLines (text : String) : List String :=
  ((strippedLines text).filter fun line => line ≠ "").eraseDups

/-- The lines a mask keeps. -/
def keptBy (mask : List Bool) (lines : List String) : List String :=
  ((lines.zip mask).filter Prod.snd).map Prod.fst

/-- A text of which only some lines were kept. -/
def keepLines (mask : List Bool) (text : String) : String :=
  join '\n' (keptBy mask (split isLineBreak text))

variable {text line : String}

theorem mem_recordLines_iff :
    line∈recordLines text ↔ line ≠ "" ∧ ∃ piece∈split isLineBreak text, stripText piece=line := by
  have hstripped : strippedLines text=(split isLineBreak text).map stripText := by
    unfold strippedLines split
    rw [map_map]
    refine map_congr_left fun piece _ => ?_
    simp [stripText]
  rw [recordLines,mem_eraseDups,mem_filter,hstripped,mem_map, decide_eq_true_eq,and_comm]

theorem mem_recordLines_join {pieces : List String} :
    line∈recordLines (join '\n' pieces) ↔ ∃ piece∈pieces, line∈recordLines piece := by
  cases pieces with
  | nil =>
    have hempty : recordLines (join '\n' [])=[] := by decide
    simp [hempty]
  | cons first rest =>
    have hsplit : split isLineBreak (join '\n' (first::rest)) =
        (first::rest).flatMap (split isLineBreak) :=
      split_join_flatMap (by decide) (cons_ne_nil first rest)
    simp only [mem_recordLines_iff,hsplit,mem_flatMap]
    constructor
    · rintro ⟨hne,inner,⟨piece,hpiece,hinner⟩,hline⟩
      exact ⟨piece,hpiece,hne,inner,hinner,hline⟩
    · rintro ⟨piece,hpiece,hne,inner,hinner,hline⟩
      exact ⟨hne,inner,⟨piece,hpiece,hinner⟩,hline⟩

theorem split_of_free {piece : String} (h : Free isLineBreak piece) :
    split isLineBreak piece=[piece] := by
  have hjoined : split isLineBreak (join '\n' [piece])=[piece] :=
    split_join (by decide) (cons_ne_nil piece []) (by simpa using h)
  rwa [join_singleton] at hjoined

section

variable (h : line ∈ recordLines text)

include h

theorem clean_of_mem_recordLines : stripText line=line ∧ Free isLineBreak line ∧ line ≠ "" := by
  obtain ⟨hne,piece,hpiece,hline⟩ := mem_recordLines_iff.mp h
  refine ⟨?_,fun c hc => ?_,hne⟩
  · rw [← hline]
    exact stripText_idem piece
  · have hin : c∈piece.toList := by
      rw [← hline,stripText,String.toList_ofList] at hc
      unfold strip at hc
      rw [mem_reverse] at hc
      have hright := (dropWhile_suffix _).subset hc
      rw [mem_reverse] at hright
      exact (dropWhile_suffix _).subset hright
    exact free_of_mem_split hpiece c hin

theorem mem_recordLines_self : line∈recordLines line := by
  obtain ⟨hsame,hfree,hne⟩ := clean_of_mem_recordLines h
  rw [mem_recordLines_iff,split_of_free hfree]
  exact ⟨hne,line,mem_singleton_self line,hsame⟩

theorem eq_of_mem_recordLines {inner : String}
    (hinner : inner∈recordLines line) : inner=line := by
  obtain ⟨hsame,hfree,-⟩ := clean_of_mem_recordLines h
  obtain ⟨-,piece,hpiece,hstrip⟩ := mem_recordLines_iff.mp hinner
  rw [split_of_free hfree,mem_singleton] at hpiece
  rw [← hstrip,hpiece,hsame]

end

theorem mem_of_mem_keepLines {mask : List Bool} (h : line∈recordLines (keepLines mask text)) :
    line∈recordLines text := by
  obtain ⟨piece,hpiece,hline⟩ := mem_recordLines_join.mp h
  obtain ⟨kept,hkept,rfl⟩ := mem_map.mp hpiece
  have hpart : kept.1∈split isLineBreak text := (of_mem_zip (mem_filter.mp hkept).1).1
  obtain ⟨hne,inner,hinner,hstrip⟩ := mem_recordLines_iff.mp hline
  rw [split_of_free (free_of_mem_split hpart),mem_singleton] at hinner
  exact mem_recordLines_iff.mpr ⟨hne,kept.1,hpart,hinner ▸ hstrip⟩

end Text

/-- What became of a write. -/
inductive Kept where
  /-- The value is what it was. -/
  | nothing
  /-- Some of the lines are there. -/
  | lines (mask : List Bool)
  | whole
  deriving DecidableEq, Repr

/-- The value under a key: text, or something that is none, as it is shown. -/
inductive Cell where
  | text (raw : String)
  | other (shown : String)
  deriving DecidableEq, Repr

/-- The lines of a value that is text. -/
def Cell.lines : Cell → List String
  | .text raw => recordLines raw
  | .other _ => []

/-- The value a write leaves. -/
def Kept.leaves (kept : Kept) (old : Cell) (text : String) : Cell :=
  match kept with
  | .nothing => old
  | .lines mask => .text (keepLines mask text)
  | .whole => .text text

/-- One answer of the store. -/
structure Answer where
  /-- What a write left. -/
  kept : Kept
  /-- The call came back without an exception. -/
  said : Bool
  /-- The text of the exception. -/
  text : String
  deriving DecidableEq, Repr

/-- The two values of a set record. A key that was never set holds no line. -/
structure Halves where
  (held journal : Cell)
  deriving DecidableEq, Repr

/-- Which of the two values is meant. -/
inductive Half where
  | held
  | journal

/-- The key of a half; `_journal_key`. -/
def Half.key (key : String) : Half → String
  | .held => key
  | .journal => key ++ "_journal"

/-- The value of a half. -/
def Half.get : Half → Halves → Cell
  | .held, halves => halves.held
  | .journal, halves => halves.journal

/-- Another value for a half. -/
def Half.put : Half → Cell → Halves → Halves
  | .held, cell, halves => { halves with held := cell }
  | .journal, cell, halves => { halves with journal := cell }

/-- Why a write is not proven. -/
inductive Reason where
  | notWritten (key why : String)
  | notReadBack (key why : String)
  | notNamed (key : String) (missing : List String)
  | readsBack (key : String) (held expect : List String)
  deriving DecidableEq, Repr

/-- A program on the two values. -/
abbrev SetProg (α : Type) := Prog Answer Halves Unit α

section Programs

variable (key : String)

/-- `read_record`: the text, or why it is unknown. -/
def readRecord (half : Half) : SetProg (Except String String) := do
  let reply ← Prog.ask
  let halves ← Prog.read
  pure (if reply.said then
    match half.get halves with
    | .text raw => .ok raw
    | .other shown => .error ("it holds " ++ shown ++ ", which is not text")
  else .error reply.text)

/-- `set_setting`: the exception it raised, if it did. -/
def setSetting (half : Half) (text : String) : SetProg (Option String) := do
  let reply ← Prog.ask
  Prog.update fun halves => half.put (reply.kept.leaves (half.get halves) text) halves
  pure (if reply.said then none else some reply.text)

/-- The comparison of `_verified_write`. -/
def compared (half : Half) (expect : List String) (raw : String) : Option Reason :=
  let held := recordLines raw
  if held = expect then none
  else
    match expect.filter fun entry => entry ∉ held with
    | [] => some (.readsBack (half.key key) held expect)
    | missing => some (.notNamed (half.key key) missing)

/-- The read-back of `_verified_write`. -/
def readBack (half : Half) (expect : List String) : SetProg (Option Reason) := do
  match ← readRecord half with
  | .error why => pure (some (.notReadBack (half.key key) why))
  | .ok raw => pure (compared key half expect raw)

/-- `_verified_write` of lines. -/
def verifiedWrite (half : Half) (text : String) (expect : List String) :
    SetProg (Option Reason) := do
  match ← setSetting half text with
  | some why => pure (some (.notWritten (half.key key) why))
  | none => readBack key half expect

/-- `_blank`. -/
def blank (half : Half) : SetProg Unit := do
  let _ ← setSetting half ""
  pure ()

/-- The part of `write_set` after the journal is proven. -/
def replaceRecord (text : String) (expect : List String) : SetProg (Option Reason) := do
  match ← verifiedWrite key .held text expect with
  | some why => pure (some why)
  | none =>
    blank .journal
    pure none

/-- `write_set`. -/
def writeSet (entries : List String) : SetProg (Option Reason) := do
  let expect := expected entries
  let text := join '\n' expect
  match ← verifiedWrite key .journal text expect with
  | some why => pure (some why)
  | none => replaceRecord key text expect

/-- The record and its journal, once both are read. -/
def readJournal (held : String) : SetProg (Except String String) := do
  match ← readRecord .journal with
  | .error why => pure (.error why)
  | .ok journalled => pure (.ok (join '\n' (recordLines held ++ recordLines journalled)))

/-- `read_set`. -/
def readSet : SetProg (Except String String) := do
  match ← readRecord .held with
  | .error why => pure (.error why)
  | .ok held => readJournal held

end Programs

section Specs

variable {A : Answer → Prop} {key : String} {halves : Halves} {E : Halves → Prop}
  {expect : List String} {text : String}

theorem readRecord_meets (half : Half) : Meets A (readRecord half) halves (fun t => t=halves) E
    fun got t => t=halves ∧ ∀ raw, got = .ok raw → half.get halves = .text raw := by
  refine .ask_bind rfl fun reply _ => .read_bind (.pure ⟨rfl,fun raw hraw => ?_⟩)
  split at hraw
  · cases hcell : half.get halves with
    | text found =>
      rw [hcell] at hraw
      exact congrArg Cell.text (Except.ok.inj hraw)
    | other shown =>
      rw [hcell] at hraw
      cases hraw
  · cases hraw

/-- A write leaves one of the values it may leave. -/
def Wrote (half : Half) (text : String) (halves t : Halves) : Prop :=
  ∃ kept : Kept, t = half.put (kept.leaves (half.get halves) text) halves

theorem setSetting_meets (half : Half) : Meets A (setSetting half text) halves
    (fun t => t=halves) E fun _ t => Wrote half text halves t :=
  .ask_bind rfl fun reply _ => .update_bind (.pure ⟨reply.kept,rfl⟩)

theorem readBack_meets (half : Half) : Meets A (readBack key half expect) halves
    (fun t => t=halves) E fun why t => t=halves ∧ (why=none → ∃ raw, half.get halves = .text raw ∧
      recordLines raw=expect) := by
  refine (readRecord_meets half).bind fun got t ht => ?_
  obtain ⟨rfl,hgot⟩ := ht
  cases got with
  | error why => exact .pure ⟨rfl,nofun⟩
  | ok raw =>
    refine .pure ⟨rfl,fun h => ⟨raw,hgot raw rfl,?_⟩⟩
    unfold compared at h
    dsimp only at h
    split at h
    · assumption
    · split at h <;> cases h

/-- The lines either value names. -/
def Halves.lines (halves : Halves) : List String := halves.held.lines ++ halves.journal.lines

/-- Both values are text. -/
structure Halves.Texts (halves : Halves) : Prop where
  held : ∃ raw, halves.held = .text raw
  journal : ∃ raw, halves.journal = .text raw

/-- No line of those expected gets lost. -/
def Keeps (expect : List String) (halves t : Halves) : Prop :=
  ∀ line ∈ expect, line ∈ halves.lines → line ∈ t.lines

/-- Exactly the expected lines are there. -/
def Holds (expect : List String) (t : Halves) : Prop := ∀ line, line ∈ t.lines ↔ line ∈ expect

variable {t : Halves}

theorem Holds.keeps (h : Holds expect t) : Keeps expect halves t :=
  fun line hline _ => (h line).mpr hline

/-- While the journal names everything, nothing that becomes of the record can lose a line. -/
theorem keeps_of_journal (hjour : t.journal.lines=expect) : Keeps expect halves t := by
  intro line hline _
  rw [Halves.lines,mem_append,hjour]
  exact .inr hline

/-- Once the record is proven, nothing that becomes of the journal's blanking matters. -/
theorem holds_of_blanked (hheld : halves.held.lines=expect)
    (hjour : halves.journal.lines=expect) (ht : Wrote .journal "" halves t) :
    Holds expect t := by
  obtain ⟨kept,rfl⟩ := ht
  have hblank : ∀ line, line∉recordLines "" := by decide
  have hlater : ∀ line, line∈(kept.leaves halves.journal "").lines → line∈expect := by
    intro line hline
    cases kept with
    | nothing => exact hjour ▸ hline
    | lines mask => exact absurd (mem_of_mem_keepLines hline) (hblank line)
    | whole => exact absurd hline (hblank line)
  intro line
  change line∈halves.held.lines++(kept.leaves halves.journal "").lines ↔ line∈expect
  rw [mem_append,hheld]
  exact ⟨fun h => h.elim id (hlater line),.inl⟩

theorem replaceRecord_meets (hjour : halves.journal.lines=expect) :
    Meets A (replaceRecord key text expect) halves (Keeps expect halves) E
      fun why t => Keeps expect halves t ∧ (why=none → Holds expect t) := by
  have hstart : ∀ t, t=halves → Keeps expect halves t := by
    intro t ht line _ hin
    rw [ht]
    exact hin
  have hwrote : ∀ t, Wrote .held text halves t → t.journal.lines=expect := by
    rintro t ⟨kept,rfl⟩
    exact hjour
  have hwrite : Meets A (verifiedWrite key .held text expect) halves (Keeps expect halves) E
      fun why t => t.journal.lines=expect ∧ (why=none → t.held.lines=expect) := by
    refine ((setSetting_meets .held).weaken hstart fun _ h => h).bind fun said t ht => ?_
    have htext := hwrote t ht
    cases said with
    | some why => exact .pure ⟨htext,nofun⟩
    | none =>
      refine (readBack_meets .held).mono (fun u hu => ?_) (fun _ h => h) fun why u hu => ?_
      · rw [hu]
        exact keeps_of_journal htext
      · rw [hu.1]
        refine ⟨htext,fun hnone => ?_⟩
        obtain ⟨raw,hraw,hlines⟩ := hu.2 hnone
        have hheld : t.held = .text raw := hraw
        rw [hheld]
        exact hlines
  refine hwrite.bind fun why t ht => ?_
  cases why with
  | some why => exact .pure ⟨keeps_of_journal ht.1,nofun⟩
  | none =>
    have hblank : Meets A (blank .journal) t (Keeps expect halves) E
        fun _ u => Wrote .journal "" t u := by
      refine ((setSetting_meets .journal).weaken (fun u hu => ?_) fun _ h => h).bind
        fun _ u hu => .pure hu
      rw [hu]
      exact keeps_of_journal ht.1
    refine hblank.bind fun _ u hu => .pure ?_
    have hholds := holds_of_blanked (ht.2 rfl) ht.1 hu
    exact ⟨hholds.keeps,fun _ => hholds⟩

end Specs

section Calls

variable {key : String} {halves : Halves}

/-- A call of `write_set` and how the store answers it; it may be cut short anywhere. -/
structure Call where
  entries : List String
  answers : List Answer

/-- The values after a call. -/
def step (key : String) (halves : Halves) (call : Call) : Halves :=
  (writeSet key call.entries call.answers halves).state

/-- The call answered that the set is written. -/
def Succeeded (key : String) (halves : Halves) (call : Call) : Prop :=
  (writeSet key call.entries call.answers halves).outcome = .done none

/-- `read_set`, when it is known, finds the lines. -/
def ReadsAs (halves : Halves) (lines : List String) : Prop :=
  ∃ answers raw, (readSet answers halves).outcome = .done (.ok raw) ∧ recordLines raw = lines

/-- What a call owes: no entry that was readable and is requested is lost, and a call that says it
succeeded leaves exactly the requested entries. -/
structure KeepsEntries (key : String) (halves : Halves) (call : Call) : Prop where
  kept : ∀ before, ReadsAs halves before → ∀ after, ReadsAs (step key halves call) after →
    ∀ line ∈ before, line ∈ expected call.entries → line ∈ after
  exact : Succeeded key halves call → ∀ after, ReadsAs (step key halves call) after →
    ∀ line, line ∈ after ↔ line ∈ expected call.entries

/-- Where the journal alone names a requested entry, the first write of the call, that of the
journal, leaves it there. -/
def Sheltered (halves : Halves) (call : Call) : Prop :=
  halves.Texts → ∀ line ∈ halves.journal.lines, line ∈ expected call.entries →
    line ∉ halves.held.lines → ∀ first ∈ call.answers.head?,
      line ∈ (first.kept.leaves halves.journal (join '\n' (expected call.entries))).lines

theorem mem_of_readsAs {lines : List String} (h : ReadsAs halves lines) :
    halves.Texts ∧ ∀ line, line∈lines ↔ line∈halves.lines := by
  obtain ⟨answers,raw,hread,hlines⟩ := h
  have hspec : Meets (fun _ => True) readSet halves (fun _ => True) (fun _ => True)
      fun got _ => ∀ raw, got = .ok raw → ∃ held journal, halves.held = .text held ∧
        halves.journal = .text journal ∧
        raw=join '\n' (recordLines held++recordLines journal) := by
    refine ((readRecord_meets .held).weaken (fun _ _ => trivial) fun _ h => h).bind
      fun got t ht => ?_
    obtain ⟨rfl,hheld⟩ := ht
    cases got with
    | error why => exact .pure nofun
    | ok held =>
      refine ((readRecord_meets .journal).weaken (fun _ _ => trivial) fun _ h => h).bind
        fun got u hu => ?_
      obtain ⟨rfl,hjour⟩ := hu
      cases got with
      | error why => exact .pure nofun
      | ok journal =>
        exact .pure fun raw hraw => ⟨held,journal,hheld held rfl,hjour journal rfl,
          (Except.ok.inj hraw).symm⟩
  have hend := (hspec answers fun _ _ => trivial).2
  rw [hread] at hend
  obtain ⟨held,journal,hheld,hjour,hraw⟩ := hend raw rfl
  refine ⟨⟨⟨held,hheld⟩,⟨journal,hjour⟩⟩,fun line => ?_⟩
  rw [← hlines,hraw,mem_recordLines_join]
  have hshown : halves.lines=recordLines held++recordLines journal := by
    rw [Halves.lines,hheld,hjour]
    rfl
  rw [hshown]
  constructor
  · rintro ⟨piece,hpiece,hline⟩
    obtain ⟨text,hmem⟩ : ∃ text, piece∈recordLines text := by
      rcases mem_append.mp hpiece with hleft | hright
      · exact ⟨held,hleft⟩
      · exact ⟨journal,hright⟩
    exact eq_of_mem_recordLines hmem hline ▸ hpiece
  · intro hline
    obtain ⟨text,hmem⟩ : ∃ text, line∈recordLines text := by
      rcases mem_append.mp hline with hleft | hright
      · exact ⟨held,hleft⟩
      · exact ⟨journal,hright⟩
    exact ⟨line,hline,mem_recordLines_self hmem⟩

theorem exists_readsAs (h : halves.Texts) : ∃ lines, ReadsAs halves lines := by
  obtain ⟨⟨held,hheld⟩,⟨journal,hjour⟩⟩ := h
  cases halves
  subst hheld
  subst hjour
  exact ⟨_,[⟨.nothing,true, ""⟩,⟨.nothing,true, ""⟩],_,rfl,rfl⟩

/-- The journal after the first write of a call. -/
def journalled (first : Answer) (entries : List String) (halves : Halves) : Halves :=
  { halves with
    journal := first.kept.leaves halves.journal (join '\n' (expected entries)) }

/-- What a call does once its first write was answered. -/
def proceed (key : String) (first : Answer) (entries : List String) : SetProg (Option Reason) := do
  match ← (if first.said then readBack key .journal (expected entries)
    else pure (some (.notWritten (Half.journal.key key) first.text))) with
  | some why => pure (some why)
  | none => replaceRecord key (join '\n' (expected entries)) (expected entries)

theorem writeSet_cons (first : Answer) (rest : List Answer) (entries : List String) :
    writeSet key entries (first::rest) halves =
      proceed key first entries rest (journalled first entries halves) := by
  cases hsaid : first.said <;>
    simp [writeSet,verifiedWrite,setSetting,proceed,hsaid,bind,andThen,ask,
      update,pure,ret,journalled,Half.put,Half.get]

/-- A journal that is taken for written holds the expected lines. -/
theorem readJournal_meets (first : Answer) (entries : List String) :
    Meets (fun _ => True) (if first.said then readBack key .journal (expected entries)
      else pure (some (.notWritten (Half.journal.key key) first.text))) halves
      (fun t => t=halves) (fun t => t=halves)
      fun why t => t=halves ∧ (why=none → halves.journal.lines=expected entries) := by
  split
  · refine (readBack_meets .journal).value fun why t ht => ⟨ht.1,fun hnone => ?_⟩
    obtain ⟨raw,hraw,hlines⟩ := ht.2 hnone
    have hjour : halves.journal = .text raw := hraw
    rw [hjour]
    exact hlines
  · exact .pure ⟨rfl,nofun⟩

/-- After the first write every expected line that is there stays there. -/
theorem proceed_meets (first : Answer) (entries : List String) :
    Meets (fun _ => True) (proceed key first entries) halves (Keeps (expected entries) halves)
      (Keeps (expected entries) halves) fun why t => Keeps (expected entries) halves t ∧
        (why=none → Holds (expected entries) t) := by
  have hstart : Keeps (expected entries) halves halves := fun _ _ hin => hin
  refine ((readJournal_meets first entries).weaken (fun t ht => ht ▸ hstart)
    fun t ht => ht ▸ hstart).bind fun why t ht => ?_
  obtain ⟨rfl,hproven⟩ := ht
  cases why with
  | some why => exact .pure ⟨hstart,nofun⟩
  | none => exact replaceRecord_meets (hproven rfl)

variable {first : Answer} {line : String}

/-- A journal that lacks an expected line is not proven, and the call stops there. -/
theorem proceed_stops {entries : List String} (hline : line∈expected entries)
    (hlost : line∉halves.journal.lines) (rest : List Answer) :
    (proceed key first entries rest halves).state=halves := by
  have hspec : Meets (fun _ => True) (proceed key first entries) halves (fun t => t=halves)
      (fun t => t=halves) fun _ t => t=halves := by
    refine (readJournal_meets first entries).bind fun why t ht => ?_
    cases why with
    | some why => exact .pure ht.1
    | none => exact absurd (ht.2 rfl ▸ hline) hlost
  exact hspec.state fun _ _ => trivial

/-- A line both readable and requested is still there after the first write. -/
theorem mem_journalled {call : Call} (h : Sheltered halves call) (htexts : halves.Texts)
    (hfst : first∈call.answers.head?) (hline : line∈halves.lines)
    (hwanted : line∈expected call.entries) :
    line∈(journalled first call.entries halves).lines := by
  have hshown : (journalled first call.entries halves).lines=halves.held.lines ++
      (first.kept.leaves halves.journal (join '\n' (expected call.entries))).lines := rfl
  rw [hshown,mem_append]
  by_cases hheld : line∈halves.held.lines
  · exact .inl hheld
  · have hjour : line∈halves.journal.lines := (mem_append.mp hline).resolve_left hheld
    exact .inr (h htexts line hjour hwanted hheld first hfst)

/-- One call keeps what it owes exactly when the first write loses no entry that only the journal
names. -/
theorem keepsEntries_iff_sheltered (call : Call) :
    KeepsEntries key halves call ↔ Sheltered halves call := by
  cases hanswers : call.answers with
  | nil =>
    have hsame : step key halves call=halves := by
      rw [step,hanswers]
      rfl
    have hfailed : ¬Succeeded key halves call := by
      rw [Succeeded,hanswers]
      exact nofun
    have hsheltered : Sheltered halves call := by
      intro _ line _ _ _ first hfst
      rw [hanswers] at hfst
      cases hfst
    refine ⟨fun _ => hsheltered,fun _ => ⟨fun before hpre after hafter line hline _ => ?_,
      fun h => absurd h hfailed⟩⟩
    rw [hsame] at hafter
    exact ((mem_of_readsAs hafter).2 line).mpr (((mem_of_readsAs hpre).2 line).mp hline)
  | cons first rest =>
    have hstep : step key halves call =
        (proceed key first call.entries rest (journalled first call.entries halves)).state := by
      rw [step,hanswers,writeSet_cons]
    have hfst : first∈call.answers.head? := by
      rw [hanswers]
      rfl
    have hspec := @proceed_meets key (journalled first call.entries halves) first call.entries
    constructor
    · intro h htexts line hjour hwanted hnot other hother
      have hother' : other=first := by
        rw [hanswers] at hother
        exact (Option.some.inj hother).symm
      by_contra hlost
      rw [hother'] at hlost
      have hstays : step key halves call=journalled first call.entries halves :=
        hstep.trans (proceed_stops hwanted hlost rest)
      have htexts' : (journalled first call.entries halves).Texts := by
        refine ⟨htexts.held,?_⟩
        obtain ⟨raw,hraw⟩ := htexts.journal
        cases hkept : first.kept with
        | nothing => exact ⟨raw,by simp [journalled,hkept,Kept.leaves,hraw]⟩
        | lines mask => exact ⟨_,by simp [journalled,hkept,Kept.leaves]; rfl⟩
        | whole => exact ⟨_,by simp [journalled,hkept,Kept.leaves]; rfl⟩
      obtain ⟨before,hpre⟩ := exists_readsAs htexts
      obtain ⟨after,hafter⟩ := exists_readsAs htexts'
      have hin : line∈before :=
        ((mem_of_readsAs hpre).2 line).mpr (mem_append_right _ hjour)
      have hout := h.kept before hpre after (hstays ▸ hafter) line hin hwanted
      have hlines := ((mem_of_readsAs hafter).2 line).mp hout
      exact (mem_append.mp hlines).elim hnot hlost
    · intro h
      have hkeeps : Keeps (expected call.entries) (journalled first call.entries halves)
          (step key halves call) := by
        rw [hstep]
        exact (hspec.value fun _ _ ht => ht.1).state fun _ _ => trivial
      refine ⟨fun before hpre after hafter line hline hwanted => ?_,
        fun hsucceeded after hafter line => ?_⟩
      · obtain ⟨htexts,hread⟩ := mem_of_readsAs hpre
        have hstill := mem_journalled h htexts hfst ((hread line).mp hline) hwanted
        exact ((mem_of_readsAs hafter).2 line).mpr (hkeeps line hwanted hstill)
      · have hend := (hspec rest fun _ _ => trivial).2
        rw [Succeeded,hanswers,writeSet_cons] at hsucceeded
        rw [hsucceeded] at hend
        have hholds : Holds (expected call.entries) (step key halves call) := hstep ▸ hend.2 rfl
        exact ((mem_of_readsAs hafter).2 line).trans (hholds line)

/-- Over every sequence of calls, each keeps what it owes exactly when no call's write of the
journal loses a requested entry that only the journal names. -/
theorem calls_keep_entries_iff (key : String) (halves : Halves) (calls : List Call) :
    EveryStep (step key) (KeepsEntries key) halves calls ↔
      EveryStep (step key) Sheltered halves calls := by
  induction calls generalizing halves with
  | nil => exact Iff.rfl
  | cons call rest ih => exact and_congr (keepsEntries_iff_sheltered call) (ih _)

/-- A set that was never written. -/
def neverWritten : Halves := ⟨.text "", .text ""⟩

/-- A call the store answers well. -/
def Answer.good : Answer := ⟨.whole, true, ""⟩

/-- The store keeps only the first line of a write. -/
def Answer.cut : Answer := ⟨.lines [true], true, ""⟩

/-- Two names are written, and the record keeps only the first. -/
def recordCut : Call := ⟨["eth0.2", "eth0.9"], [.good, .good, .cut, .good]⟩

/-- The two names are written, and the journal keeps only the first. -/
def journalCut : Call := ⟨["eth0.2", "eth0.9"], [.cut, .good]⟩

/-- After the first call only the journal names the second interface, and the second call, which
asks for it again, loses it. -/
theorem second_call_loses_entry :
    ¬EveryStep (step "managed_segment_link") (KeepsEntries "managed_segment_link") neverWritten
      [recordCut, journalCut] := by
  rintro ⟨-,hsnd,-⟩
  have hpre : ReadsAs (step "managed_segment_link" neverWritten recordCut)
      ["eth0.2", "eth0.9"] :=
    ⟨[.good,.good], "eth0.2\neth0.2\neth0.9",by decide +kernel,by decide +kernel⟩
  have hafter : ReadsAs (step "managed_segment_link"
      (step "managed_segment_link" neverWritten recordCut) journalCut) ["eth0.2"] :=
    ⟨[.good,.good], "eth0.2\neth0.2",by decide +kernel,by decide +kernel⟩
  have hlost : "eth0.9" ∈ ["eth0.2"] :=
    hsnd.kept _ hpre _ hafter "eth0.9" (by decide) (by decide +kernel)
  exact absurd hlost (by decide)

end Calls

end PiGwPanel.JournalledSets
