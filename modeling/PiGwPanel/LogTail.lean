import PiGwPanel.PyText

/-!
# The tail of a log

`logs.py` reads a log from its end, block by block, until it has seen more line
feeds than lines are wanted, and decodes and splits only what it has read. A line
feed is a clean cut for both: no malformed sequence reaches across it, and what
follows it begins a line.
-/

namespace PiGwPanel.LogTail

open PyText List

section Utf8

/-- A sequence that has begun: how many bytes are still to come, the bounds of the next one and
the bits so far. -/
structure Pending where
  (need low high bits : ℕ)
  /-- Only bytes beyond ASCII continue a sequence. -/
  low_le : 0x80 ≤ low

/-- U+FFFD. -/
def replacement : Char := Char.ofNat 0xFFFD

/-- A byte where a character begins. -/
def lead (b : UInt8) : List Char × Option Pending :=
  let n := b.toNat
  if n < 0x80 then ([Char.ofNat n], none)
  else if n < 0xC2 then ([replacement], none)
  else if n < 0xE0 then ([], some ⟨1, 0x80, 0xBF, n % 0x20, le_rfl⟩)
  else if n = 0xE0 then ([], some ⟨2, 0xA0, 0xBF, 0, by decide⟩)
  else if n = 0xED then ([], some ⟨2, 0x80, 0x9F, 0xD, le_rfl⟩)
  else if n < 0xF0 then ([], some ⟨2, 0x80, 0xBF, n % 0x10, le_rfl⟩)
  else if n = 0xF0 then ([], some ⟨3, 0x90, 0xBF, 0, by decide⟩)
  else if n < 0xF4 then ([], some ⟨3, 0x80, 0xBF, n % 8, le_rfl⟩)
  else if n = 0xF4 then ([], some ⟨3, 0x80, 0x8F, 4, le_rfl⟩)
  else ([replacement], none)

/-- One byte: the characters it completes or replaces, and what has begun after it. A byte that
does not continue the sequence ends it, and is then read on its own. -/
def feed (state : Option Pending) (b : UInt8) : List Char × Option Pending :=
  match state with
  | none => lead b
  | some p =>
    let n := b.toNat
    if p.low ≤ n ∧ n ≤ p.high then
      let bits := p.bits * 0x40 + n % 0x40
      if p.need ≤ 1 then ([Char.ofNat bits], none)
      else ([], some ⟨p.need - 1, 0x80, 0xBF, bits, le_rfl⟩)
    else (replacement :: (lead b).1, (lead b).2)

/-- The text from here on; a sequence cut off by the end is replaced. -/
def decodeFrom : Option Pending → List UInt8 → List Char
  | none, [] => []
  | some _, [] => [replacement]
  | state, b :: rest => (feed state b).1 ++ decodeFrom (feed state b).2 rest

/-- `bytes.decode("utf-8", "replace")`. -/
def decode (bytes : List UInt8) : List Char := decodeFrom none bytes

theorem decodeFrom_append_newline (state : Option Pending) (before after : List UInt8) :
    decodeFrom state (before++10::after) =
      decodeFrom state before ++ '\n' :: decodeFrom none after := by
  induction before generalizing state with
  | nil =>
    cases state with
    | none => rfl
    | some p =>
      have hout : ¬ (p.low≤(10 : UInt8).toNat ∧ (10 : UInt8).toNat≤p.high) := by
        have hlow := p.low_le
        intro h
        have hten : p.low≤10 := h.1
        omega
      simp only [nil_append,decodeFrom,feed,if_neg hout]
      rfl
  | cons b rest ih => simp only [cons_append,decodeFrom,ih,append_assoc]

end Utf8

section Lines

/-- `str.splitlines` from inside a line, or right after a carriage return. -/
def linesFrom (line : List Char) (afterReturn : Bool) : List Char → List (List Char)
  | [] => if line = [] then [] else [line]
  | c :: rest =>
    if afterReturn ∧ c = '\n' then linesFrom [] false rest
    else if isLineBreak c then line :: linesFrom [] (c = '\r') rest
    else linesFrom (line ++ [c]) false rest

/-- `str.splitlines`. -/
def splitlines (text : List Char) : List (List Char) := linesFrom [] false text

theorem linesFrom_append_newline (line : List Char) (afterReturn : Bool)
    (before after : List Char) : linesFrom line afterReturn (before ++ '\n' :: after) =
      linesFrom line afterReturn (before++['\n'])++linesFrom [] false after := by
  induction before generalizing line afterReturn with
  | nil =>
    have hbreak : isLineBreak '\n'=true := by decide
    cases afterReturn <;> simp [linesFrom,hbreak]
  | cons c rest ih =>
    simp only [cons_append,linesFrom]
    split_ifs
    · exact ih _ _
    · rw [ih,cons_append]
    · exact ih _ _

theorem linesFrom_newline_ne_nil (line before : List Char) :
    linesFrom line false (before++['\n'])≠[] := by
  have hbreak : isLineBreak '\n'=true := by decide
  induction before generalizing line with
  | nil => simp [linesFrom,hbreak]
  | cons c rest ih =>
    simp only [cons_append,linesFrom,Bool.false_eq_true,false_and,if_false]
    split
    · simp
    · exact ih _

end Lines

section Tail

/-- `block`. -/
def block : ℕ := 8192

/-- The loop: what is read of a file once all before the position is still to be read. -/
def readBack (content : List UInt8) (lines pos : ℕ) (data : List UInt8) : List UInt8 :=
  if 0 < pos ∧ data.count 10 ≤ lines then
    let read := min block pos
    readBack content lines (pos - read) ((content.drop (pos - read)).take read ++ data)
  else data
termination_by pos
decreasing_by
  unfold block
  omega

/-- `list[-n:]` of a positive number. -/
def lastOf {α : Type} (n : ℕ) (l : List α) : List α := l.drop (l.length - n)

/-- `tail`; nothing is found of a file that is missing or cannot be read. -/
def tail (file : Option (List UInt8)) (lines : ℤ) : List (List Char) :=
  if lines ≤ 0 then []
  else
    match file with
    | none => []
    | some content =>
      lastOf lines.toNat (splitlines (decode (readBack content lines.toNat content.length [])))

/-- What is read is the end of the file, and all of it or more line feeds than lines. -/
theorem readBack_eq (content : List UInt8) (lines pos : ℕ) :
    ∃ start, readBack content lines pos (content.drop pos)=content.drop start ∧
      (start=0 ∨ lines<(content.drop start).count 10) := by
  induction pos using Nat.strong_induction_on with
  | _ pos ih =>
    rw [readBack]
    split
    next hmore =>
      have hread : (content.drop (pos-min block pos)).take (min block pos)++content.drop pos =
          content.drop (pos-min block pos) := by
        have hpos : pos=pos-min block pos+min block pos := by omega
        conv_lhs => rw [show content.drop pos=(content.drop (pos-min block pos)).drop
          (min block pos) by rw [drop_drop,← hpos]]
        exact take_append_drop _ _
      dsimp only
      rw [hread]
      refine ih _ ?_
      unfold block
      omega
    next hdone =>
      exact ⟨pos,rfl,by omega⟩

theorem count_le_length_splitlines (n : ℕ) (bytes : List UInt8) (h : n≤bytes.count 10) :
    n≤(splitlines (decode bytes)).length := by
  induction n generalizing bytes with
  | zero => exact Nat.zero_le _
  | succ n ih =>
    have hmem : (10 : UInt8)∈bytes := count_pos_iff.mp (by omega)
    obtain ⟨before,after,rfl,hpre⟩ := eq_append_cons_of_mem hmem
    rw [count_append,count_eq_zero.mpr hpre,count_cons_self] at h
    have hafter := ih after (by omega)
    have hfst := length_pos_iff.mpr (linesFrom_newline_ne_nil [] (decodeFrom none before))
    unfold splitlines decode at *
    rw [decodeFrom_append_newline,linesFrom_append_newline,length_append]
    omega

theorem lastOf_append {α : Type} {n : ℕ} (before after : List α) (h : n≤after.length) :
    lastOf n (before++after)=lastOf n after := by
  unfold lastOf
  rw [length_append,Nat.add_sub_assoc h,drop_length_add_append]

/-- A text ends in the lines of what follows one of its line feeds. -/
theorem lastOf_splitlines_append {n : ℕ} (first after : List UInt8)
    (h : n≤(splitlines (decode after)).length) :
    lastOf n (splitlines (decode (first++10::after)))=lastOf n (splitlines (decode after)) := by
  have hcut : splitlines (decode (first++10::after)) =
      linesFrom [] false (decodeFrom none first++['\n'])++splitlines (decode after) := by
    unfold splitlines decode
    rw [decodeFrom_append_newline,linesFrom_append_newline]
  rw [hcut]
  exact lastOf_append _ _ h

/-- The tail is the same as decoding the whole file, splitting it into lines and taking the last
ones. -/
theorem tail_eq (content : List UInt8) (lines : ℤ) (hlines : 0 < lines) :
    tail (some content) lines = lastOf lines.toNat (splitlines (decode content)) := by
  obtain ⟨start,hread,hstart⟩ := readBack_eq content lines.toNat content.length
  rw [drop_length] at hread
  unfold tail
  rw [if_neg (by omega)]
  dsimp only
  rw [hread]
  rcases hstart with rfl | hmany
  · rfl
  have hmem : (10 : UInt8)∈content.drop start := count_pos_iff.mp (by omega)
  obtain ⟨before,after,hsplit,hpre⟩ := eq_append_cons_of_mem hmem
  rw [hsplit,count_append,count_eq_zero.mpr hpre,count_cons_self] at hmany
  have henough := count_le_length_splitlines lines.toNat after (by omega)
  have hwhole : content=(content.take start++before)++10::after := by
    rw [append_assoc,← hsplit,take_append_drop]
  -- Both texts end in the lines of what follows the first line feed that was read.
  rw [hsplit,lastOf_splitlines_append _ _ henough,hwhole,lastOf_splitlines_append _ _ henough]

/-- The last line of a log of more than one block that ends inside a character. -/
theorem tail_eq_cut_off :
    tail (some (List.replicate 9000 0x61 ++ [0x0A, 0x61, 0x0A, 0x62, 0xE2, 0x82])) 1 =
      [['b', replacement]] := by
  rw [tail_eq _ 1 (by decide)]
  have hlast := lastOf_splitlines_append (n := 1) (replicate 9000 0x61++[0x0A,0x61])
    [0x62,0xE2,0x82] (by decide)
  rw [append_assoc] at hlast
  exact hlast.trans (by decide)

end Tail

end PiGwPanel.LogTail
