import Mathlib.Data.List.DropRight
import Mathlib.Data.String.Basic

/-!
# Text operations of the source language

The string methods the panel's code relies on, on lists of characters where a
proof needs them.
-/

namespace PiGwPanel.PyText

open List

/-- `str.isspace` on one character. -/
def isSpace (c : Char) : Bool :=
  let n := c.toNat
  n = 0x20 || (0x9 ≤ n && n ≤ 0xD) || (0x1C ≤ n && n ≤ 0x1F) || n = 0x85 || n = 0xA0 ||
    n = 0x1680 || (0x2000 ≤ n && n ≤ 0x200A) || n = 0x2028 || n = 0x2029 || n = 0x202F ||
    n = 0x205F || n = 0x3000

/-- The zeros of the decimal digits of every script; nine digits follow each. -/
def decimalZeros : List ℕ :=
  [0x30, 0x660, 0x6F0, 0x7C0, 0x966, 0x9E6, 0xA66, 0xAE6, 0xB66, 0xBE6, 0xC66, 0xCE6, 0xD66,
   0xDE6, 0xE50, 0xED0, 0xF20, 0x1040, 0x1090, 0x17E0, 0x1810, 0x1946, 0x19D0, 0x1A80, 0x1A90,
   0x1B50, 0x1BB0, 0x1C40, 0x1C50, 0xA620, 0xA8D0, 0xA900, 0xA9D0, 0xA9F0, 0xAA50, 0xABF0,
   0xFF10, 0x104A0, 0x10D30, 0x11066, 0x110F0, 0x11136, 0x111D0, 0x112F0, 0x11450, 0x114D0,
   0x11650, 0x116C0, 0x11730, 0x118E0, 0x11950, 0x11C50, 0x11D50, 0x11DA0, 0x11F50, 0x16A60,
   0x16AC0, 0x16B50, 0x1D7CE, 0x1D7D8, 0x1D7E2, 0x1D7EC, 0x1D7F6, 0x1E140, 0x1E2F0, 0x1E4F0,
   0x1E950, 0x1FBF0]

/-- The value of a decimal digit of any script. -/
def digitValue (c : Char) : Option ℕ :=
  (decimalZeros.find? fun first => first ≤ c.toNat && c.toNat < first + 10).map fun first =>
    c.toNat - first

/-- `\d` of a text pattern. -/
def isDecimal (c : Char) : Bool := (digitValue c).isSome

/-- `str.lower` on text that may become ASCII: besides the letters there is the Kelvin sign. -/
def lowerText (text : String) : String :=
  text.map fun c => if c.toNat = 0x212A then 'k' else c.toLower

/-- `str.strip` on characters. -/
def strip (text : List Char) : List Char :=
  ((text.dropWhile isSpace).reverse.dropWhile isSpace).reverse

/-- `str.strip`. -/
def stripText (text : String) : String := String.ofList (strip text.toList)

/-- `repr` of a text without quotes, backslashes or control characters. -/
def pyRepr (text : String) : String := "'" ++ text ++ "'"

/-- Trimmed, non-empty parts of a text between separators. -/
def stripParts (separator : Char → Bool) (value : String) : List String :=
  ((value.toList.splitOnP separator).map fun part => String.ofList (strip part)).filter
    fun part => part ≠ ""

/-- Non-empty trimmed parts of a comma-separated value. -/
def commaParts (value : String) : List String := stripParts (fun c => c = ',') value

/-- `str.split()` on characters. -/
def words (text : List Char) : List String :=
  ((text.splitOnP isSpace).map fun part => String.ofList (strip part)).filter fun part => part ≠ ""

/-- `str.split()`: the words between white space. -/
def splitText (text : String) : List String := words text.toList

/-- `str.partition` at one character, without the middle part. -/
def partition (separator : Char) (text : String) : String × String :=
  (String.ofList (text.toList.takeWhile (· ≠ separator)),
    String.ofList ((text.toList.dropWhile (· ≠ separator)).drop 1))

/-- `str.rpartition` at one character; nothing where the character is absent. -/
def rpartition (separator : Char) (text : String) : Option (String × String) :=
  if separator ∈ text.toList then
    some (String.ofList ((text.toList.reverse.dropWhile (· ≠ separator)).drop 1).reverse,
      String.ofList (text.toList.reverse.takeWhile (· ≠ separator)).reverse)
  else none

/-- A line boundary of `str.splitlines`. -/
def isLineBreak (c : Char) : Bool :=
  let n := c.toNat
  (0xA ≤ n && n ≤ 0xD) || (0x1C ≤ n && n ≤ 0x1E) || n = 0x85 || n = 0x2028 || n = 0x2029

/-- `str.splitlines` with each line stripped. -/
def strippedLines (text : String) : List String :=
  (text.toList.splitOnP isLineBreak).map fun line => String.ofList (strip line)

/-- Digits of an integer literal, single underscores allowed between them. -/
def digitsValue : List Char → ℕ → Bool → Option ℕ
  | [], acc, afterDigit => if afterDigit then some acc else none
  | c :: rest, acc, afterDigit =>
    match digitValue c with
    | some digit => digitsValue rest (acc * 10 + digit) true
    | none => if c = '_' && afterDigit then digitsValue rest acc false else none

/-- The number `int(text)` reads. -/
def pyInt (text : String) : Option ℤ :=
  match strip text.toList with
  | '-' :: digits => (digitsValue digits 0 false).map fun n => -(n : ℤ)
  | '+' :: digits => (digitsValue digits 0 false).map fun n => (n : ℤ)
  | digits => (digitsValue digits 0 false).map fun n => (n : ℤ)

/-- `int(text)`, which raises on any other text. -/
def intOrRaise (text : String) : Except String ℤ :=
  match pyInt text with
  | some n => .ok n
  | none => .error ("invalid literal for int() with base 10: " ++ pyRepr text)

theorem natText_injective : Function.Injective (fun n : ℕ => toString n) := by
  intro m n h
  have hdigits : Nat.toDigits 10 m=Nat.toDigits 10 n := by
    simpa only [Nat.toString_eq_ofList_toDigits,String.toList_ofList] using congrArg String.toList h
  rw [← Nat.ofDigitChars_ten_toDigits (n := m),hdigits,Nat.ofDigitChars_ten_toDigits]

variable {c : Char} {text : String} {digits : List Char}

theorem isSpace_of_printable (h : 0x21 ≤ c.toNat ∧ c.toNat≤0x7E) : isSpace c=false := by
  simp only [isSpace,Bool.or_eq_false_iff,Bool.and_eq_false_iff,decide_eq_false_iff_not]
  omega

theorem isSpace_of_isAlphanum (h : c.isAlphanum=true) : isSpace c=false := by
  delta Char.isAlphanum Char.isAlpha Char.isUpper Char.isLower Char.isDigit at h
  simp only [Bool.or_eq_true,Bool.and_eq_true,decide_eq_true_eq,ge_iff_le,
    UInt32.le_iff_toNat_le] at h
  apply isSpace_of_printable
  rcases h with (h | h) | h
  · exact ⟨le_trans (by decide) h.1,le_trans h.2 (by decide)⟩
  · exact ⟨le_trans (by decide) h.1,le_trans h.2 (by decide)⟩
  · exact ⟨le_trans (by decide) h.1,le_trans h.2 (by decide)⟩

theorem strip_of_ends {text : List Char} (hfst : ∀ c∈text.head?, isSpace c=false)
    (hlast : ∀ c∈text.getLast?, isSpace c=false) : strip text=text := by
  have hself (l : List Char) (hl : ∀ c∈l.head?, isSpace c=false) : l.dropWhile isSpace=l := by
    cases l with
    | nil => rfl
    | cons c rest => rw [dropWhile_cons_of_neg (by simp [hl c rfl])]
  rw [← head?_reverse] at hlast
  unfold strip
  rw [hself text hfst,hself text.reverse hlast,reverse_reverse]

theorem strip_of_not_space {text : List Char} (h : ∀ c∈text, isSpace c=false) : strip text=text :=
  strip_of_ends (fun c hc => h c (mem_of_mem_head? hc)) fun c hc => h c (mem_of_mem_getLast? hc)

theorem stripText_of_not_space (h : ∀ c∈text.toList, isSpace c=false) : stripText text=text := by
  unfold stripText
  rw [strip_of_not_space h,String.ofList_toList]

theorem digitValue_of_isDigit (h : c.isDigit=true) : digitValue c=some (c.toNat - '0'.toNat) := by
  have hrange : 48 ≤ c.toNat ∧ c.toNat≤57 := by
    simpa [Char.isDigit,UInt32.le_iff_toNat_le] using h
  have hfst : (48 ≤ c.toNat && c.toNat<48+10)=true := by
    simp only [Bool.and_eq_true,decide_eq_true_eq]
    omega
  have hzeros : decimalZeros=48::decimalZeros.tail := rfl
  unfold digitValue
  rw [hzeros,find?_cons]
  simp only [hfst]
  rfl

theorem digitsValue_of_isDigit (h : ∀ c∈digits, c.isDigit=true) (acc : ℕ) :
    digitsValue digits acc true=some (Nat.ofDigitChars 10 digits acc) := by
  induction digits generalizing acc with
  | nil => rfl
  | cons c rest ih =>
    have hrest : ∀ c∈rest, c.isDigit=true := fun d hd => h d (mem_cons_of_mem _ hd)
    unfold digitsValue
    rw [digitValue_of_isDigit (h c mem_cons_self),Nat.ofDigitChars_cons,Nat.mul_comm]
    exact ih hrest _

theorem digitsValue_of_ne_nil (hne : digits≠[]) (h : ∀ c∈digits, c.isDigit=true) :
    digitsValue digits 0 false=some (Nat.ofDigitChars 10 digits 0) := by
  obtain ⟨c,rest,rfl⟩ := exists_cons_of_ne_nil hne
  obtain ⟨hc,hrest⟩ := forall_mem_cons.mp h
  unfold digitsValue
  rw [digitValue_of_isDigit hc,Nat.ofDigitChars_cons,Nat.mul_comm]
  exact digitsValue_of_isDigit hrest _

theorem isDigit_toDigits (n : ℕ) : ∀ c∈Nat.toDigits 10 n, c.isDigit=true := fun _ hc =>
  Nat.isDigit_of_mem_toDigits (by decide) (by decide) hc

theorem digitsValue_toDigits (n : ℕ) : digitsValue (Nat.toDigits 10 n) 0 false=some n := by
  rw [digitsValue_of_ne_nil Nat.toDigits_ne_nil (isDigit_toDigits n),Nat.ofDigitChars_ten_toDigits]

theorem pyInt_natText (n : ℕ) : pyInt (toString n)=some (n : ℤ) := by
  have hdigits := isDigit_toDigits n
  have hstrip : strip (toString n).toList=Nat.toDigits 10 n := by
    rw [Nat.toString_eq_ofList_toDigits,String.toList_ofList]
    exact strip_of_not_space fun c hc => isSpace_of_isAlphanum (by
      rw [Char.isAlphanum,hdigits c hc,Bool.or_true])
  have hread := digitsValue_toDigits n
  unfold pyInt
  rw [hstrip]
  split
  next heq =>
    exact absurd (hdigits _ (heq ▸ mem_cons_self)) (by decide)
  next heq =>
    exact absurd (hdigits _ (heq ▸ mem_cons_self)) (by decide)
  · rw [hread]
    rfl

theorem toString_negSucc (n : ℕ) : (toString (Int.negSucc n)).toList =
    '-' :: Nat.toDigits 10 (n+1) := by
  have htext : toString (Int.negSucc n) = "-" ++ toString (n+1) := rfl
  rw [htext,String.toList_append,Nat.toString_eq_ofList_toDigits]
  simp only [String.toList_ofList]
  rfl

/-- The characters of `str(n)` of an integer are digits, but for a sign in front. -/
theorem isDigit_or_minus_of_mem_intText {n : ℤ} (h : c∈(toString n).toList) :
    c.isDigit=true ∨ c = '-' := by
  cases n with
  | ofNat n =>
    have htext : toString (Int.ofNat n)=toString n := rfl
    rw [htext,Nat.toString_eq_ofList_toDigits,String.toList_ofList] at h
    exact .inl (isDigit_toDigits n c h)
  | negSucc n =>
    rw [toString_negSucc,mem_cons] at h
    exact h.symm.imp_left (isDigit_toDigits (n+1) c)

theorem stripText_intText (n : ℤ) : stripText (toString n)=toString n := by
  apply stripText_of_not_space
  intro c hc
  rcases isDigit_or_minus_of_mem_intText hc with hdigit | rfl
  · exact isSpace_of_isAlphanum (by rw [Char.isAlphanum,hdigit,Bool.or_true])
  · decide

theorem pyInt_intText (n : ℤ) : pyInt (toString n)=some n := by
  cases n with
  | ofNat n => exact pyInt_natText n
  | negSucc n =>
    have hstrip : strip (toString (Int.negSucc n)).toList = '-' :: Nat.toDigits 10 (n+1) := by
      rw [← toString_negSucc]
      have htext := congrArg String.toList (stripText_intText (Int.negSucc n))
      rwa [stripText,String.toList_ofList] at htext
    unfold pyInt
    rw [hstrip]
    simp [digitsValue_toDigits,Int.negSucc_eq]

/-- Two texts joined by a character the first does not hold are told apart there. -/
theorem partition_join {separator : Char} {before : String} (h : separator∉before.toList)
    (after : String) :
    partition separator (before++(String.singleton separator++after))=(before, after) := by
  have hchars : (before++(String.singleton separator++after)).toList =
      before.toList++separator::after.toList := by
    simp
  have hother : ∀ c∈before.toList, decide (c≠separator)=true := by
    intro c hc
    have hne : c≠separator := fun hsame => h (hsame ▸ hc)
    exact decide_eq_true hne
  unfold partition
  rw [hchars,takeWhile_append_of_pos hother,dropWhile_append_of_pos hother]
  simp

theorem strip_eq_rdropWhile (text : List Char) :
    strip text=(text.dropWhile isSpace).rdropWhile isSpace := rfl

theorem strip_idem (text : List Char) : strip (strip text)=strip text := by
  have hleft : (strip text).dropWhile isSpace=strip text := by
    rw [dropWhile_eq_self_iff]
    intro hlen
    have hstart : strip text <+: text.dropWhile isSpace := rdropWhile_prefix _ _
    rw [hstart.getElem hlen]
    exact dropWhile_eq_self_iff.mp (dropWhile_idempotent isSpace text)
      (lt_of_lt_of_le hlen hstart.length_le)
  rw [strip_eq_rdropWhile (strip text),hleft,strip_eq_rdropWhile,rdropWhile_idempotent]

theorem words_append_cons (hc : isSpace c=true) (before after : List Char) :
    words (before++c::after)=words before++words after := by
  unfold words
  rw [splitOnP_append_cons before after hc,map_append,filter_append]

/-- What white space at either end does not change, stripping does not change. -/
theorem apply_strip {γ : Sort*} (f : List Char → γ)
    (hleft : ∀ c text, isSpace c=true → f (c::text)=f text)
    (hright : ∀ c text, isSpace c=true → f (text++[c])=f text) (text : List Char) :
    f (strip text)=f text := by
  have hfront : f (text.dropWhile isSpace)=f text := by
    induction text with
    | nil => rfl
    | cons c rest ih =>
      by_cases hc : isSpace c=true
      · rw [dropWhile_cons_of_pos hc,ih,hleft c rest hc]
      · rw [dropWhile_cons_of_neg hc]
  have hback (part : List Char) : f (part.rdropWhile isSpace)=f part := by
    induction part using reverseRecOn with
    | nil => rfl
    | append_singleton rest c ih =>
      by_cases hc : isSpace c=true
      · rw [rdropWhile_concat_pos _ _ _ hc,ih,hright c rest hc]
      · rw [rdropWhile_concat_neg _ _ _ hc]
  rw [strip_eq_rdropWhile,hback,hfront]

theorem words_strip (text : List Char) : words (strip text)=words text :=
  apply_strip words (fun _ text hc => words_append_cons hc [] text)
    (fun _ text hc => (words_append_cons hc text []).trans (append_nil _)) text

theorem strip_append_space (hc : isSpace c=true) (text : List Char) :
    strip (text++[c])=strip text := by
  by_cases h : ∀ d∈text, isSpace d=true
  · have hall : ∀ d∈text++[c], isSpace d=true := by
      simpa [or_imp,forall_and] using ⟨h,hc⟩
    rw [strip,strip,dropWhile_eq_nil_iff.mpr h,dropWhile_eq_nil_iff.mpr hall]
  · have hsome : text.dropWhile isSpace≠[] := fun hnil => h (dropWhile_eq_nil_iff.mp hnil)
    rw [strip,dropWhile_append]
    simp [hsome,strip,hc]

theorem stripParts_stripText (separator : Char → Bool) (value : String) :
    stripParts separator (stripText value)=stripParts separator value := by
  let f (text : List Char) : List String := ((text.splitOnP separator).map fun part =>
    String.ofList (strip part)).filter fun part => part ≠ ""
  have hcut {s : Char} (hs : separator s=true) (front back : List Char) :
      f (front++s::back)=f front++f back := by
    simp only [f]
    rw [splitOnP_append_cons _ _ hs,map_append,filter_append]
  have hone {text : List Char} (h : ∀ c∈text, separator c=false) :
      f text=[String.ofList (strip text)].filter fun part => part ≠ "" := by
    simp only [f]
    rw [splitOnP_eq_singleton h,map_singleton]
  have hends (c : Char) (hc : isSpace c=true) (text : List Char) :
      f (c::text)=f text ∧ f (text++[c])=f text := by
    induction hn : text.length using Nat.strong_induction_on generalizing text with
    | _ n ih =>
      by_cases hsep : ∃ s∈text, separator s=true
      · obtain ⟨s,hmem,hs⟩ := hsep
        obtain ⟨front,back,rfl⟩ := append_of_mem hmem
        rw [length_append,length_cons] at hn
        have hfront := (ih front.length (by omega) front rfl).1
        have hback := (ih back.length (by omega) back rfl).2
        refine ⟨(hcut hs (c::front) back).trans (by rw [hfront,hcut hs]),?_⟩
        rw [append_assoc]
        exact (hcut hs front (back++[c])).trans (by rw [hback,hcut hs])
      · have hfree : ∀ s∈text, separator s=false := fun s hs =>
          Bool.eq_false_iff.mpr fun h => hsep ⟨s,hs,h⟩
        by_cases hself : separator c=true
        · have hnil : f []=[] := rfl
          exact ⟨(hcut hself [] text).trans (by rw [hnil,nil_append]),
            (hcut hself text []).trans (by rw [hnil,append_nil])⟩
        · have hc' := Bool.eq_false_iff.mpr hself
          rw [hone hfree,hone (forall_mem_cons.mpr ⟨hc',hfree⟩),
            hone (by simpa [or_imp,forall_and] using ⟨hfree,hc'⟩),strip_append_space hc]
          refine ⟨?_,rfl⟩
          rw [strip,dropWhile_cons_of_pos hc,strip]
  have h := apply_strip f (fun c text hc => (hends c hc text).1)
    (fun c text hc => (hends c hc text).2) value.toList
  rwa [← String.toList_ofList (l := strip value.toList)] at h

theorem splitText_stripText (text : String) : splitText (stripText text)=splitText text := by
  unfold splitText stripText
  rw [String.toList_ofList,words_strip]

theorem length_stripText_le (text : String) : (stripText text).length≤text.length := by
  unfold stripText strip
  rw [← String.length_toList,String.toList_ofList,length_reverse,← String.length_toList]
  calc _ ≤ (text.toList.dropWhile isSpace).reverse.length := (dropWhile_sublist _).length_le
    _=(text.toList.dropWhile isSpace).length := length_reverse
    _ ≤ _ := (dropWhile_sublist _).length_le

theorem stripText_idem (text : String) : stripText (stripText text)=stripText text := by
  unfold stripText
  rw [String.toList_ofList,strip_idem]

theorem stripText_of_mem_splitText {word : String} (h : word∈splitText text) :
    stripText word=word := by
  obtain ⟨part,-,rfl⟩ := mem_map.mp (mem_filter.mp h).1
  unfold stripText
  rw [String.toList_ofList,strip_idem]

theorem strip_map {f : Char → Char} (hf : ∀ c, isSpace (f c)=isSpace c) (text : List Char) :
    strip (text.map f)=(strip text).map f := by
  have hcomp : isSpace ∘ f=isSpace := funext hf
  unfold strip
  rw [dropWhile_map,hcomp,← map_reverse,dropWhile_map,hcomp,map_reverse]

theorem toNat_toLower (c : Char) :
    c.toLower.toNat = if 0x41 ≤ c.toNat ∧ c.toNat≤0x5A then c.toNat+32 else c.toNat := by
  unfold Char.toLower
  by_cases h : c.val ≥ 'A'.val ∧ c.val ≤ 'Z'.val
  · have hlow : 0x41 ≤ c.toNat := h.1
    have hhigh : c.toNat≤0x5A := h.2
    rw [dif_pos h,if_pos ⟨hlow,hhigh⟩]
    change (c.val+32).toNat=c.toNat+32
    change (c.toNat+32) % 2 ^ 32=c.toNat+32
    omega
  · have hout : ¬(0x41 ≤ c.toNat ∧ c.toNat≤0x5A) := fun hc => h hc
    rw [dif_neg h,if_neg hout]

theorem isSpace_toLower (c : Char) : isSpace c.toLower=isSpace c := by
  by_cases h : 0x41 ≤ c.toNat ∧ c.toNat≤0x5A
  · have hlower : c.toLower.toNat=c.toNat+32 := by rw [toNat_toLower,if_pos h]
    rw [isSpace_of_printable (c := c) (by omega),isSpace_of_printable (by omega)]
  · have hlower : c.toLower.toNat=c.toNat := by rw [toNat_toLower,if_neg h]
    simp only [isSpace,hlower]

theorem toLower_idem (c : Char) : c.toLower.toLower=c.toLower := by
  have hnat : c.toLower.toLower.toNat=c.toLower.toNat := by
    rw [toNat_toLower c.toLower,toNat_toLower c]
    split_ifs <;> omega
  exact Char.ext (UInt32.toNat_inj.mp hnat)

/-- Trimmed, lower-cased text stays as it is when trimmed and lower-cased again. -/
theorem toLower_stripText_idem (text : String) :
    (stripText (stripText text).toLower).toLower=(stripText text).toLower := by
  have hlower (s : String) : s.toLower=String.ofList (s.toList.map Char.toLower) := by
    rw [← String.toList_map,String.ofList_toList]
    rfl
  rw [hlower (stripText text),stripText,String.toList_ofList,strip_map isSpace_toLower,
    hlower,String.toList_ofList,stripText,String.toList_ofList,strip_idem,map_map]
  congr 2
  funext c
  exact toLower_idem c

end PiGwPanel.PyText
