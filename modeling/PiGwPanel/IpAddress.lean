import PiGwPanel.PacketFilter

/-!
# Addresses as Python's `ipaddress` reads and prints them

Texts of addresses and of address ranges, in both families and with the same
refusals as the standard library: leading zeros, a second `::`, masks with a gap
and ranges with host bits, which are cut off. What an accepted text may be made
of follows from the parsers. Only the scope of an IPv6 address is free text. A
/64 range is printed in one canonical form, and read back from it as it was.
-/

namespace PiGwPanel.IpAddress

open PacketFilter List Option

/-- `text.split(separator)`. -/
def parts (separator : Char) (text : List Char) : List (List Char) :=
  text.splitOnP fun c => c = separator

/-- The value of decimal digits. -/
def decimalValue (digits : List Char) : ℕ :=
  digits.foldl (fun n c => 10 * n + (c.toNat - '0'.toNat)) 0

/-- `_parse_octet`. -/
def parseOctet (octet : List Char) : Option ℕ :=
  if octet ≠ [] ∧ octet.all Char.isDigit ∧ octet.length ≤ 3 ∧
      (octet = ['0'] ∨ octet.head? ≠ some '0') ∧ decimalValue octet ≤ 255 then
    some (decimalValue octet)
  else none

/-- `_ip_int_from_string` of the IPv4 family. -/
def ipv4Int (text : List Char) : Option ℕ :=
  match parts '.' text with
  | [a, b, c, d] => do
    let a ← parseOctet a
    let b ← parseOctet b
    let c ← parseOctet c
    let d ← parseOctet d
    return ((a * 256 + b) * 256 + c) * 256 + d
  | _ => none

/-- `IPv4Address`. -/
def ipv4Address (text : List Char) : Option (BitVec 32) := (ipv4Int text).map (BitVec.ofNat 32)

/-- `_prefix_from_prefix_string`. -/
def prefixLength (width : ℕ) (text : List Char) : Option ℕ :=
  if text ≠ [] ∧ text.all Char.isDigit ∧ decimalValue text ≤ width then some (decimalValue text)
  else none

/-- `_prefix_from_ip_int`: the length of a mask without a gap. -/
def maskLength (mask : ℕ) : Option ℕ :=
  (List.range 33).find? fun len => mask = 2 ^ 32 - 2 ^ (32 - len)

/-- `_make_netmask` of the IPv4 family: a length, a mask or its complement. -/
def ipv4Mask (text : List Char) : Option ℕ :=
  prefixLength 32 text <|>
    (ipv4Int text).bind fun mask => maskLength mask <|> maskLength (2 ^ 32 - 1 - mask)

/-- An address without its host bits. -/
def masked (width len value : ℕ) : ℕ := value / 2 ^ (width - len) * 2 ^ (width - len)

/-- `IPv4Network(text, strict=False)`. -/
def ipv4Network (text : List Char) : Option (Net 32) :=
  match parts '/' text with
  | [addr] => (ipv4Address addr).map fun base => ⟨base, 32⟩
  | [addr, mask] => do
    let value ← ipv4Int addr
    let len ← ipv4Mask mask
    return ⟨BitVec.ofNat 32 (masked 32 len value), len⟩
  | _ => none

/-- A hexadecimal digit. -/
def hexDigit (c : Char) : Bool := c.isDigit || ('a' ≤ c && c ≤ 'f') || ('A' ≤ c && c ≤ 'F')

/-- The value of hexadecimal digits. -/
def hexValue (digits : List Char) : ℕ :=
  digits.foldl (fun n c => 16 * n + if c.isDigit then c.toNat - '0'.toNat
    else c.toLower.toNat - 'a'.toNat + 10) 0

/-- `_parse_hextet`. -/
def parseHextet (hextet : List Char) : Option ℕ :=
  if hextet ≠ [] ∧ hextet.all hexDigit ∧ hextet.length ≤ 4 then some (hexValue hextet) else none

/-- The parts of an IPv6 text; an IPv4 address at its end is rewritten as two hextets. -/
def ipv6Parts (text : List Char) : Option (List (List Char)) :=
  let all := parts ':' text
  let last := all.getLastD []
  if all.length < 3 then none
  else if '.' ∈ last then
    (ipv4Int last).map fun value =>
      all.dropLast ++ [Nat.toDigits 16 (value / 65536), Nat.toDigits 16 (value % 65536)]
  else some all

/-- The indices of the empty parts between the ends. -/
def gaps (all : List (List Char)) : List ℕ :=
  (List.range all.length).filter fun i => 0 < i ∧ i + 1 < all.length ∧ all[i]? = some []

/-- The parts on one side of a `::`; an empty end part is allowed right beside it only. -/
def side (half : List (List Char)) (atEnd : Option (List Char)) : Option (List (List Char)) :=
  if atEnd = some [] then if half.length = 1 then some [] else none else some half

/-- The values of the hextets around the parts a `::` stands for. -/
def fillGap (high low : List (List Char)) : Option (List ℕ) :=
  if high.length + low.length < 8 then do
    let high ← high.mapM parseHextet
    let low ← low.mapM parseHextet
    return high ++ List.replicate (8 - (high.length + low.length)) 0 ++ low
  else none

/-- The eight hextets of an address. -/
def hextets (all : List (List Char)) : Option (List ℕ) :=
  if 9 < all.length then none
  else match gaps all with
    | [] => if all.length = 8 then all.mapM parseHextet else none
    | [gap] => do
      let high ← side (all.take gap) all.head?
      let low ← side (all.drop (gap + 1)) all.getLast?
      fillGap high low
    | _ => none

/-- `_ip_int_from_string` of the IPv6 family. -/
def ipv6Int (text : List Char) : Option ℕ := do
  let values ← (← ipv6Parts text) |> hextets
  return values.foldl (fun n hextet => 65536 * n + hextet) 0

/-- An IPv6 address with the scope it was written with. -/
structure V6Address where
  value : ℕ
  scope : Option (List Char)
  deriving DecidableEq, Repr

/-- `IPv6Address`. A scope is any text without the two separators. -/
def ipv6Address (text : List Char) : Option V6Address :=
  if '/' ∈ text then none
  else match parts '%' text with
    | [addr] => (ipv6Int addr).map fun value => ⟨value, none⟩
    | [addr, scope] =>
      if scope = [] then none else (ipv6Int addr).map fun value => ⟨value, some scope⟩
    | _ => none

/-- An IPv6 range. -/
structure V6Network where
  base : V6Address
  len : ℕ
  deriving DecidableEq, Repr

/-- `IPv6Network(text, strict=False)`; cutting off host bits drops the scope. -/
def ipv6Network (text : List Char) : Option V6Network :=
  match parts '/' text with
  | [addr] => (ipv6Address addr).map fun base => ⟨base, 128⟩
  | [addr, mask] => do
    let base ← ipv6Address addr
    let len ← prefixLength 128 mask
    if masked 128 len base.value = base.value then return ⟨base, len⟩
    else return ⟨⟨masked 128 len base.value, none⟩, len⟩
  | _ => none

/-- `str` of an IPv4 range. -/
def ipv4NetworkText (net : Net 32) : String :=
  let value := net.base.toNat
  ".".intercalate ([value / 2 ^ 24, value / 2 ^ 16 % 256, value / 2 ^ 8 % 256, value % 256].map
    toString) ++ "/" ++ toString net.len

/-- The first longest run of zeros, as its start and length; `run` zeros end before `index`. -/
def longestZeros : (values : List ℕ) → (index run : ℕ) → (best : ℕ × ℕ) → ℕ × ℕ
  | [], _, _, best => best
  | 0 :: rest, index, run, best =>
    longestZeros rest (index + 1) (run + 1)
      (if best.2 < run + 1 then (index - run, run + 1) else best)
  | (_ + 1) :: rest, index, _, best => longestZeros rest (index + 1) 0 best

/-- `_compress_hextets` on hextets, joined. -/
def compressed (values : List ℕ) : String :=
  let texts := values.map fun value => String.ofList (Nat.toDigits 16 value)
  let (start, run) := longestZeros values 0 0 (0, 0)
  if 1 < run then
    ":".intercalate (texts.take start) ++ "::" ++ ":".intercalate (texts.drop (start + run))
  else ":".intercalate texts

/-- `str` of an IPv6 range. -/
def ipv6NetworkText (net : V6Network) : String :=
  let values := (List.range 8).map fun i => net.base.value / 65536 ^ (7 - i) % 65536
  compressed values ++ (net.base.scope.elim "" fun scope => "%" ++ String.ofList scope) ++ "/" ++
    toString net.len

variable {text : List Char}

/-- What holds of the separator and of every part holds of the text. -/
theorem forall_of_parts {P : Char → Prop} (separator : Char)
    (hparts : ∀ part∈parts separator text, ∀ c∈part, P c) (hsep : P separator) :
    ∀ c∈text, P c := by
  unfold parts at hparts
  induction text with
  | nil => simp
  | cons d rest ih =>
    rw [splitOnP_cons_eq_if_modifyHead] at hparts
    by_cases hd : d=separator
    · subst hd
      have hrest : ∀ c∈rest, P c := ih fun part hpart =>
        hparts part (by simp [hpart])
      exact forall_mem_cons.mpr ⟨hsep,hrest⟩
    · simp only [hd,decide_false,Bool.false_eq_true,if_false] at hparts
      cases hsplit : rest.splitOnP (fun c => c=separator) with
      | nil => exact absurd hsplit (splitOnP_ne_nil _ _)
      | cons first others =>
        rw [hsplit,modifyHead_cons,forall_mem_cons,forall_mem_cons] at hparts
        obtain ⟨⟨hhead,hfst⟩,hothers⟩ := hparts
        have hrest : ∀ c∈rest, P c := by
          apply ih
          rw [hsplit]
          exact forall_mem_cons.mpr ⟨hfst,hothers⟩
        exact forall_mem_cons.mpr ⟨hhead,hrest⟩

theorem isDigit_of_parseOctet {octet : List Char} {value : ℕ} (h : parseOctet octet=some value) :
    ∀ c∈octet, c.isDigit=true := by
  unfold parseOctet at h
  split at h
  next hlegal =>
    exact all_eq_true.mp hlegal.2.1
  · cases h

theorem chars_of_ipv4Int {value : ℕ} (h : ipv4Int text=some value) :
    ∀ c∈text, c.isDigit=true ∨ c = '.' := by
  refine forall_of_parts '.' (fun part hpart c hc => .inl ?_) (.inr rfl)
  unfold ipv4Int at h
  split at h
  next first second third fourth hparts =>
    simp only [bind_eq_bind,bind_eq_some_iff] at h
    obtain ⟨a,ha,b,hb,c',hc',d,hd,-⟩ := h
    rw [hparts] at hpart
    simp only [mem_cons,not_mem_nil,or_false] at hpart
    rcases hpart with rfl | rfl | rfl | rfl
    · exact isDigit_of_parseOctet ha c hc
    · exact isDigit_of_parseOctet hb c hc
    · exact isDigit_of_parseOctet hc' c hc
    · exact isDigit_of_parseOctet hd c hc
  · cases h

theorem chars_of_ipv4Address {addr : BitVec 32} (h : ipv4Address text=some addr) :
    ∀ c∈text, c.isDigit=true ∨ c = '.' := by
  obtain ⟨value,hval,-⟩ := map_eq_some_iff.mp h
  exact chars_of_ipv4Int hval

theorem chars_of_ipv4Mask {len : ℕ} (h : ipv4Mask text=some len) :
    ∀ c∈text, c.isDigit=true ∨ c = '.' := by
  simp only [ipv4Mask,orElse_eq_some] at h
  rcases h with hlen | ⟨-,hmask⟩
  · unfold prefixLength at hlen
    split at hlen
    next hlegal =>
      exact fun c hc => .inl (all_eq_true.mp hlegal.2.1 c hc)
    · cases hlen
  · obtain ⟨mask,hmask,-⟩ := bind_eq_some_iff.mp hmask
    exact chars_of_ipv4Int hmask

theorem chars_of_ipv4Network {net : Net 32} (h : ipv4Network text=some net) :
    ∀ c∈text, c.isDigit=true ∨ c = '.' ∨ c = '/' := by
  refine forall_of_parts '/' (fun part hpart c hc => ?_) (.inr (.inr rfl))
  unfold ipv4Network at h
  split at h
  next addr hparts =>
    obtain ⟨base,hbase,-⟩ := map_eq_some_iff.mp h
    rw [hparts,mem_singleton] at hpart
    subst hpart
    exact (chars_of_ipv4Address hbase c hc).imp_right .inl
  next addr mask hparts =>
    simp only [bind_eq_bind,bind_eq_some_iff] at h
    obtain ⟨value,hval,len,hlen,-⟩ := h
    rw [hparts] at hpart
    simp only [mem_cons,not_mem_nil,or_false] at hpart
    rcases hpart with rfl | rfl
    · exact (chars_of_ipv4Int hval c hc).imp_right .inl
    · exact (chars_of_ipv4Mask hlen c hc).imp_right .inl
  · cases h

/-- The canonical text of a /64 range: at most four hextets in lower-case hexadecimal without
leading zeros, the last of them not zero, then `::`, a scope if there is one, and `/64`. -/
def Canonical64 (text : String) : Prop :=
  ∃ (high : List ℕ) (scope : Option (List Char)),
    high.length ≤ 4 ∧ (∀ value ∈ high, value < 65536) ∧ high.getLast? ≠ some 0 ∧
    (∀ zone ∈ scope, zone ≠ [] ∧ '%' ∉ zone ∧ '/' ∉ zone) ∧
    text = ":".intercalate (high.map fun value => String.ofList (Nat.toDigits 16 value)) ++ "::" ++
      (scope.elim "" fun zone => "%" ++ String.ofList zone) ++ "/64"

theorem parts_eq_splitOn (separator : Char) (text : List Char) :
    parts separator text=text.splitOn separator := rfl

/-- Two parts and the separator between them make the text, and the second is free of it. -/
theorem of_parts_pair {separator : Char} {text first second : List Char}
    (h : parts separator text=[first,second]) :
    text=first++separator::second ∧ separator∉second := by
  have hjoin : [separator].intercalate (text.splitOn separator)=text :=
    intercalate_splitOn separator
  rw [← parts_eq_splitOn,h] at hjoin
  refine ⟨by simpa using hjoin.symm,fun hmem => ?_⟩
  obtain ⟨before,after,rfl⟩ := append_of_mem hmem
  -- a separator in the second part would make a third
  have hthree : (parts separator text).length =
      (first.splitOn separator).length+(before.splitOn separator).length +
        (after.splitOn separator).length := by
    rw [parts_eq_splitOn,← hjoin]
    simp [splitOn_append_cons_self,Nat.add_assoc]
  have hpos (piece : List Char) : 0<(piece.splitOn separator).length :=
    length_pos_of_ne_nil (splitOn_ne_nil _ _)
  have hfst := hpos first
  have hpre := hpos before
  have hafter := hpos after
  rw [h] at hthree
  simp only [length_cons,length_nil] at hthree
  omega

theorem digitChar_hex : ∀ digit<16, hexDigit (Nat.digitChar digit)=true ∧
    hexValue [Nat.digitChar digit]=digit := by decide

theorem hexValue_append (digits : List Char) (c : Char) :
    hexValue (digits++[c])=16*hexValue digits+hexValue [c] := by
  simp [hexValue]

theorem toDigits_hex (value : ℕ) :
    (∀ c∈Nat.toDigits 16 value, ∃ digit<16, c=Nat.digitChar digit) ∧
      hexValue (Nat.toDigits 16 value)=value := by
  induction value using Nat.strongRecOn with
  | ind value ih =>
    by_cases hsmall : value<16
    · rw [Nat.toDigits_of_lt_base hsmall]
      exact ⟨fun c hc => ⟨value,hsmall,mem_singleton.mp hc⟩,(digitChar_hex value hsmall).2⟩
    · rw [Nat.toDigits_of_base_le (by decide) (by omega)]
      obtain ⟨hdigits,hval⟩ := ih (value / 16) (by omega)
      have hlast : value % 16<16 := by omega
      constructor
      · intro c hc
        rcases mem_append.mp hc with hc | hc
        · exact hdigits c hc
        · exact ⟨value % 16,hlast,mem_singleton.mp hc⟩
      · rw [hexValue_append,hval,(digitChar_hex _ hlast).2]
        omega

theorem hexDigit_of_mem_toDigits {c : Char} {value : ℕ} (h : c∈Nat.toDigits 16 value) :
    hexDigit c=true := by
  obtain ⟨digit,hdigit,rfl⟩ := (toDigits_hex value).1 c h
  exact (digitChar_hex digit hdigit).1

theorem parseHextet_toDigits {value : ℕ} (h : value<65536) :
    parseHextet (Nat.toDigits 16 value)=some value := by
  have hdigits : ∀ c∈Nat.toDigits 16 value, hexDigit c=true := fun _ => hexDigit_of_mem_toDigits
  have hlen : (Nat.toDigits 16 value).length≤4 :=
    (Nat.length_toDigits_le_iff (by decide) (by decide)).mpr h
  unfold parseHextet
  rw [if_pos ⟨Nat.toDigits_ne_nil,all_eq_true.mpr hdigits,hlen⟩,(toDigits_hex value).2]

theorem not_mem_toDigits {c : Char} (h : hexDigit c=false) (value : ℕ) :
    c∉Nat.toDigits 16 value := by
  intro hc
  rw [hexDigit_of_mem_toDigits hc] at h
  cases h

/-- The hextets of the printed text. -/
theorem ipv6Int_printed {high : List ℕ} (hfew : high.length≤4)
    (hsmall : ∀ value∈high, value<65536) :
    ipv6Int (":".intercalate (high.map fun value => String.ofList (Nat.toDigits 16 value)) ++
      "::").toList = some ((high++replicate (8-high.length) 0).foldl
        (fun n hextet => 65536 * n+hextet) 0) := by
  have hcolon := not_mem_toDigits (c := ':') (by decide)
  have hparts (value : ℕ) (rest : List Char) : parts ':' (Nat.toDigits 16 value ++ ':' :: rest) =
      Nat.toDigits 16 value::parts ':' rest :=
    splitOn_append_cons_self_of_not_mem (hcolon value) rest
  have hparse : ∀ value∈high, parseHextet (Nat.toDigits 16 value)=some value :=
    fun value hval => parseHextet_toDigits (hsmall value hval)
  have hend : parts ':' [':']=[[],[]] := by decide
  match high with
  | [] => decide +kernel
  | [_] | [_,_] | [_,_,_] | [_,_,_,_] =>
    simp [ipv6Int,ipv6Parts,hextets,gaps,side,fillGap,hparts,hend,hparse,range_succ]
  | _ :: _ :: _ :: _ :: _ :: _ =>
    simp only [length_cons] at hfew
    omega

theorem compressed_high {high : List ℕ} (hfew : high.length≤4) (hlast : high.getLast?≠some 0) :
    compressed (high++replicate (8-high.length) 0) =
      ":".intercalate (high.map fun value => String.ofList (Nat.toDigits 16 value)) ++ "::" := by
  match high with
  | [] => decide +kernel
  | [a+1] => simp [compressed,longestZeros,replicate]
  | [a,b+1] => cases a <;> simp [compressed,longestZeros,replicate]
  | [a,b,c+1] => cases a <;> cases b <;> simp [compressed,longestZeros,replicate]
  | [a,b,c,d+1] => cases a <;> cases b <;> cases c <;> simp [compressed,longestZeros,replicate]
  | [0] => simp at hlast
  | [a,0] => simp at hlast
  | [a,b,0] => simp at hlast
  | [a,b,c,0] => simp at hlast
  | _ :: _ :: _ :: _ :: _ :: _ =>
    simp only [length_cons] at hfew
    omega

theorem hextets_of_high {high : List ℕ} (hfew : high.length≤4)
    (hsmall : ∀ value∈high, value<65536) {value : ℕ}
    (hval : value = (high++replicate (8-high.length) 0).foldl
        (fun n hextet => 65536 * n+hextet) 0) :
    (range 8).map (fun i => value / 65536 ^ (7 - i) % 65536) =
      high++replicate (8-high.length) 0 ∧ masked 128 64 value=value := by
  subst hval
  match high with
  | [] => decide
  | [_] | [_,_] | [_,_,_] | [_,_,_,_] =>
    simp only [mem_cons,not_mem_nil,or_false,forall_eq_or_imp,forall_eq] at hsmall
    simp [range_succ,masked,replicate]
    omega
  | _ :: _ :: _ :: _ :: _ :: _ =>
    simp only [length_cons] at hfew
    omega

/-- The hextets of a range with a 64-bit prefix, without the zeros at the end. -/
theorem exists_high {value : ℕ} (h : masked 128 64 value=value) :
    ∃ high : List ℕ, high.length≤4 ∧ (∀ hextet∈high, hextet<65536) ∧ high.getLast?≠some 0 ∧
      (range 8).map (fun i => value / 65536 ^ (7 - i) % 65536) =
        high++replicate (8-high.length) 0 := by
  have hsmall (n : ℕ) : n % 65536<65536 := Nat.mod_lt _ (by decide)
  have hsplit : (range 8).map (fun i => value / 65536 ^ (7 - i) % 65536) =
      [value / 65536 ^ 7 % 65536,value / 65536 ^ 6 % 65536,value / 65536 ^ 5 % 65536,
        value / 65536 ^ 4 % 65536,0,0,0,0] := by
    unfold masked at h
    simp [range_succ]
    omega
  rw [hsplit]
  have ha := hsmall (value / 65536 ^ 7)
  have hb := hsmall (value / 65536 ^ 6)
  have hc := hsmall (value / 65536 ^ 5)
  have hd := hsmall (value / 65536 ^ 4)
  generalize value / 65536 ^ 7 % 65536=a,value / 65536 ^ 6 % 65536=b,
    value / 65536 ^ 5 % 65536=c,value / 65536 ^ 4 % 65536=d at *
  by_cases hd0 : d=0
  · by_cases hc0 : c=0
    · by_cases hb0 : b=0
      · by_cases ha0 : a=0
        · exact ⟨[],by simp [ha0,hb0,hc0,hd0,replicate]⟩
        · exact ⟨[a],by simp [ha0,ha,hb0,hc0,hd0,replicate]⟩
      · exact ⟨[a,b],by simp [ha,hb0,hb,hc0,hd0,replicate]⟩
    · exact ⟨[a,b,c],by simp [ha,hb,hc0,hc,hd0,replicate]⟩
  · exact ⟨[a,b,c,d],by simp [ha,hb,hc,hd0,hd,replicate]⟩

theorem zone_of_ipv6Address {addr : V6Address} (h : ipv6Address text=some addr) :
    ∀ zone∈addr.scope, zone≠[] ∧ '%' ∉ zone ∧ '/' ∉ zone := by
  unfold ipv6Address at h
  split_ifs at h with hslash
  split at h
  · obtain ⟨value,-,rfl⟩ := map_eq_some_iff.mp h
    simp
  next first zone hparts =>
    split_ifs at h with hzone
    obtain ⟨value,-,rfl⟩ := map_eq_some_iff.mp h
    obtain ⟨rfl,hpercent⟩ := of_parts_pair hparts
    simp only [mem_append,mem_cons,not_or] at hslash
    simp [hzone,hpercent,hslash]
  · cases h

theorem masked_of_ipv6Network {net : V6Network} (h : ipv6Network text=some net) (hlen : net.len=64) :
    (∀ zone∈net.base.scope, zone≠[] ∧ '%' ∉ zone ∧ '/' ∉ zone) ∧
      masked 128 64 net.base.value=net.base.value := by
  unfold ipv6Network at h
  split at h
  · obtain ⟨base,-,rfl⟩ := map_eq_some_iff.mp h
    cases hlen
  · simp only [bind_eq_bind,bind_eq_some_iff] at h
    obtain ⟨base,hbase,len,-,h⟩ := h
    split_ifs at h with hmasked
    · cases h
      cases hlen
      exact ⟨zone_of_ipv6Address hbase,hmasked⟩
    · cases h
      cases hlen
      refine ⟨by simp,?_⟩
      simp [masked]
  · cases h

theorem not_mem_printed {c : Char} (hdigit : hexDigit c=false) (hcolon : c ≠ ':')
    (high : List ℕ) : c∉(":".intercalate (high.map fun value =>
      String.ofList (Nat.toDigits 16 value)) ++ "::").toList := by
  have hval := not_mem_toDigits hdigit
  have hjoined : c∉[':'].intercalate (high.map (Nat.toDigits 16)) := by
    induction high with
    | nil => simp
    | cons first rest ih =>
      cases rest with
      | nil => simpa using hval first
      | cons second rest =>
        simp only [map_cons] at ih
        simp [hval,hcolon,ih]
  simpa [String.toList_intercalate,Function.comp_def,hcolon] using hjoined

/-- The range a canonical text is read as. -/
theorem ipv6Network_canonical {addr : List Char} {scope : Option (List Char)} {value : ℕ}
    (hread : ipv6Int addr=some value) (hmasked : masked 128 64 value=value)
    (hslash : '/' ∉ addr) (hpercent : '%' ∉ addr)
    (hzone : ∀ zone∈scope, zone≠[] ∧ '%' ∉ zone ∧ '/' ∉ zone) :
    ipv6Network (addr++scope.elim [] (fun zone => '%' :: zone)++['/','6','4']) =
      some ⟨⟨value,scope⟩,64⟩ := by
  have hlen : prefixLength 128 ['6','4']=some 64 := by decide
  have hmask : parts '/' ['6','4']=[['6','4']] := by decide
  have haddress : ipv6Address (addr++scope.elim [] (fun zone => '%' :: zone)) =
      some ⟨value,scope⟩ ∧ '/' ∉ addr++scope.elim [] (fun zone => '%' :: zone) := by
    cases scope with
    | none =>
      have haddr : parts '%' addr=[addr] := splitOn_eq_singleton hpercent
      simp [ipv6Address,hslash,haddr,hread]
    | some zone =>
      obtain ⟨hne,hpercents,hslashes⟩ := hzone zone rfl
      have haddr : parts '%' (addr ++ '%' :: zone)=[addr,zone] :=
        (splitOn_append_cons_self_of_not_mem hpercent _).trans
          (by rw [splitOn_eq_singleton hpercents])
      simp [ipv6Address,hslash,hslashes,haddr,hne,hread]
  obtain ⟨haddress,hfree⟩ := haddress
  have hnet : parts '/' (addr++scope.elim [] (fun zone => '%' :: zone)++['/','6','4']) =
      [addr++scope.elim [] (fun zone => '%' :: zone),['6','4']] :=
    (splitOn_append_cons_self_of_not_mem hfree _).trans (by rw [← parts_eq_splitOn,hmask])
  unfold ipv6Network
  rw [hnet]
  simp only [bind_eq_bind,bind_eq_some_iff]
  exact ⟨_,haddress,_,hlen,if_pos hmasked⟩

/-- What is printed for a range with a 64-bit prefix is canonical. -/
theorem canonical64_of_ipv6Network {net : V6Network} (h : ipv6Network text=some net)
    (hlen : net.len=64) : Canonical64 (ipv6NetworkText net) := by
  obtain ⟨hzone,hmasked⟩ := masked_of_ipv6Network h hlen
  obtain ⟨high,hfew,hsmall,hlast,hhigh⟩ := exists_high hmasked
  have hsuf : "/" ++ toString 64 = "/64" := by decide
  refine ⟨high,net.base.scope,hfew,hsmall,hlast,hzone,?_⟩
  rw [← compressed_high hfew hlast,← hhigh,ipv6NetworkText,hlen,String.append_assoc,hsuf]

/-- A canonical text is what is printed for the range it is read as. -/
theorem ipv6NetworkText_of_canonical64 {text : String} {net : V6Network}
    (hcanon : Canonical64 text) (h : ipv6Network text.toList=some net) :
    ipv6NetworkText net=text := by
  obtain ⟨high,scope,hfew,hsmall,hlast,hzone,rfl⟩ := hcanon
  obtain ⟨hvals,hmasked⟩ := hextets_of_high hfew hsmall rfl
  have hread := ipv6Network_canonical (ipv6Int_printed hfew hsmall) hmasked
    (not_mem_printed (by decide) (by decide) high) (not_mem_printed (by decide) (by decide) high)
    hzone
  have hscope : (scope.elim "" fun zone => "%" ++ String.ofList zone).toList =
      scope.elim [] (fun zone => '%' :: zone) := by cases scope <;> simp
  have hsuf : "/" ++ toString 64 = "/64" := by decide
  rw [String.toList_append,String.toList_append,hscope] at h
  obtain rfl := some.inj (hread.symm.trans h)
  rw [ipv6NetworkText,hvals,compressed_high hfew hlast,String.append_assoc,hsuf]

end PiGwPanel.IpAddress
