import CloudOps.Platform.Totp
import Mathlib.Data.List.TakeWhile
import Mathlib.Tactic.Ring

namespace CloudOps.Platform

section Bits

theorem toBits_succ (width n : Nat) : toBits (width + 1) n = n.testBit width :: toBits width n := by
  rw [toBits, List.range_succ, List.reverse_append, List.reverse_singleton, List.singleton_append,
    List.map_cons]
  rfl

theorem length_toBits (width n : Nat) : (toBits width n).length = width := by
  simp [toBits]

-- Only the low bits are written.
theorem toBits_mod (width n : Nat) : toBits width (n % 2 ^ width) = toBits width n := by
  unfold toBits
  apply List.map_congr_left
  intro i hi
  rw [List.mem_reverse, List.mem_range] at hi
  rw [Nat.testBit_mod_two_pow, decide_eq_true hi, Bool.true_and]

theorem foldl_bits (bits : List Bool) (start : Nat) :
    bits.foldl (fun n bit => 2 * n + bit.toNat) start = start * 2 ^ bits.length + ofBits bits := by
  induction bits generalizing start with
  | nil => simp [ofBits]
  | cons bit rest ih =>
      rw [ofBits, List.foldl_cons, List.foldl_cons, ih, ih, List.length_cons, pow_succ]
      ring

theorem ofBits_cons (bit : Bool) (rest : List Bool) :
    ofBits (bit :: rest) = bit.toNat * 2 ^ rest.length + ofBits rest := by
  rw [ofBits, List.foldl_cons, foldl_bits, mul_zero, zero_add]

theorem ofBits_lt (bits : List Bool) : ofBits bits < 2 ^ bits.length := by
  induction bits with
  | nil => exact Nat.one_pos
  | cons bit rest ih =>
      have hbit : bit.toNat * 2 ^ rest.length ≤ 1 * 2 ^ rest.length :=
        Nat.mul_le_mul_right _ bit.toNat_le
      rw [ofBits_cons, List.length_cons, pow_succ]
      omega

theorem ofBits_toBits (width n : Nat) : ofBits (toBits width n) = n % 2 ^ width := by
  induction width with
  | zero => rw [pow_zero, Nat.mod_one]; rfl
  | succ width ih =>
      rw [toBits_succ, ofBits_cons, length_toBits, ih, Nat.toNat_testBit, Nat.mod_pow_succ, mul_comm, add_comm]

theorem toBits_ofBits (bits : List Bool) : toBits bits.length (ofBits bits) = bits := by
  induction bits with
  | nil => rfl
  | cons bit rest ih =>
      have hlow : ofBits (bit :: rest) % 2 ^ rest.length = ofBits rest := by
        rw [ofBits_cons, Nat.mul_add_mod_self_right, Nat.mod_eq_of_lt (ofBits_lt rest)]
      have hhigh : (ofBits (bit :: rest)).testBit rest.length = bit := by
        rw [ofBits_cons, Nat.testBit_eq_decide_div_mod_eq, mul_comm,
          Nat.mul_add_div (Nat.two_pow_pos _), Nat.div_eq_of_lt (ofBits_lt rest)]
        cases bit <;> rfl
      rw [List.length_cons, toBits_succ, hhigh, ← toBits_mod, hlow, ih]

end Bits

section Groups

variable {size : Nat}

theorem bitGroups_append (hsize : 0 < size) {group : List Bool} (hgroup : group.length = size) (rest : List Bool) :
    bitGroups size (group ++ rest) = ofBits group :: bitGroups size rest := by
  have hcount : (group ++ rest).length / size = rest.length / size + 1 := by
    rw [List.length_append, hgroup, Nat.add_div_left _ hsize]
  rw [bitGroups, hcount, List.range_succ_eq_map, List.map_cons, List.map_map, zero_mul, List.drop_zero,
    ← hgroup, List.take_left, bitGroups]
  congr 1
  apply List.map_congr_left
  intro i _
  have hdrop : (group ++ rest).drop ((i + 1) * group.length) = rest.drop (i * group.length) := by
    rw [Nat.succ_mul, Nat.add_comm, List.drop_append, List.drop_of_length_le (Nat.le_add_right _ _),
      List.nil_append, Nat.add_sub_cancel_left]
  simp only [Function.comp_apply, Nat.succ_eq_add_one, hdrop]

theorem bitGroups_flatMap (hsize : 0 < size) {α : Type} {bitsOf : α → List Bool} {items : List α}
    (hlen : ∀ item ∈ items, (bitsOf item).length = size) :
    bitGroups size (items.flatMap bitsOf) = items.map fun item => ofBits (bitsOf item) := by
  induction items with
  | nil => simp [bitGroups]
  | cons item rest ih =>
      obtain ⟨hitem, hrest⟩ := List.forall_mem_cons.mp hlen
      rw [List.flatMap_cons, bitGroups_append hsize hitem, ih hrest, List.map_cons]

-- Nothing is left over when the length is a multiple of the size.
theorem flatMap_bitGroups (hsize : 0 < size) (count : Nat) {bits : List Bool} (hlen : bits.length = count * size) :
    (bitGroups size bits).flatMap (toBits size) = bits := by
  induction count generalizing bits with
  | zero =>
      rw [zero_mul, List.length_eq_zero_iff] at hlen
      subst hlen
      simp [bitGroups]
  | succ count ih =>
      rw [Nat.succ_mul] at hlen
      have htake : (bits.take size).length = size := by rw [List.length_take]; omega
      have hdrop : (bits.drop size).length = count * size := by rw [List.length_drop]; omega
      have hgroups := bitGroups_append hsize htake (bits.drop size)
      have hhead := toBits_ofBits (bits.take size)
      rw [htake] at hhead
      rw [List.take_append_drop] at hgroups
      rw [hgroups, List.flatMap_cons, ih hdrop, hhead, List.take_append_drop]

theorem mem_bitGroups_lt {bits : List Bool} {n : Nat} (hmem : n ∈ bitGroups size bits) : n < 2 ^ size := by
  obtain ⟨i, _, rfl⟩ := List.mem_map.mp hmem
  apply (ofBits_lt _).trans_le
  apply Nat.pow_le_pow_right (by omega)
  rw [List.length_take]
  exact min_le_left _ _

end Groups

-- What generateTotpSecret does to the random bytes.
def base32Encode (bytes : List UInt8) : List Char :=
  (bitGroups 5 (bytes.flatMap fun byte => toBits 8 byte.toNat)).map fun i => BASE32_ALPHABET.getD i 'A'

-- The text after lower-casing letters, adding padding and inserting white space.
inductive Respelt : List Char → List Char → Prop
  | nil : Respelt [] []
  | same (c : Char) {text other : List Char} : Respelt text other → Respelt (c :: text) (c :: other)
  | lower (c : Char) {text other : List Char} :
      Respelt text other → Respelt (c :: text) (c.toLower :: other)
  | pad {text other : List Char} : Respelt text other → Respelt text ('=' :: other)
  | space (c : Char) {text other : List Char} :
      isWhitespace c = true → Respelt text other → Respelt text (c :: other)

namespace Respelt

theorem lowerCased (text : List Char) : Respelt text (text.map Char.toLower) := by
  induction text with
  | nil => exact nil
  | cons c rest ih => exact lower c ih

theorem padded {text other : List Char} (h : Respelt text other) (count : Nat) :
    Respelt text (other ++ List.replicate count '=') := by
  induction h with
  | nil =>
      induction count with
      | zero => exact nil
      | succ count ih => exact pad ih
  | same c _ ih => exact same c ih
  | lower c _ ih => exact lower c ih
  | pad _ ih => exact pad ih
  | space c hc _ ih => exact space c hc ih

theorem spaced {text front back : List Char} {c : Char} (hc : isWhitespace c = true)
    (h : Respelt text (front ++ back)) : Respelt text (front ++ c :: back) := by
  induction front generalizing text with
  | nil => exact space c hc h
  | cons first rest ih =>
      cases h with
      | same _ h => exact same first (ih h)
      | lower letter h => exact lower letter (ih h)
      | pad h => exact pad (ih h)
      | space _ hfirst h => exact space first hfirst (ih h)

end Respelt

section Decoding

-- The bits a character of the secret stands for; none when it is skipped.
def bitsOfChar (c : Char) : List Bool :=
  ((upperCase c).filter fun c => !isWhitespace c).flatMap fun c =>
    match BASE32_ALPHABET.idxOf? c with
    | none => []
    | some i => toBits 5 i

theorem bitsOfChar_pad : bitsOfChar '=' = [] := by decide

theorem bitsOfChar_letter {i : Nat} (hi : i < 32) :
    bitsOfChar (BASE32_ALPHABET.getD i 'A') = toBits 5 i ∧
    bitsOfChar (BASE32_ALPHABET.getD i 'A').toLower = toBits 5 i := by
  decide +revert

theorem toUpper_of_not_lower {c : Char} (h : c.toNat < 97 ∨ 122 < c.toNat) : c.toUpper = c := by
  unfold Char.toUpper
  rw [dif_neg]
  rintro ⟨hlow, hhigh⟩
  rw [UInt32.le_iff_toNat_le] at hlow hhigh
  change 97 ≤ c.toNat at hlow
  change c.toNat ≤ 122 at hhigh
  omega

theorem upperCase_of_isWhitespace {c : Char} (h : isWhitespace c = true) : upperCase c = [c] := by
  have hcases : c.toNat ∈ [9, 10, 11, 12, 13, 32, 160, 5760, 8232, 8233, 8239, 8287, 12288, 65279] ∨
      8192 ≤ c.toNat ∧ c.toNat ≤ 8202 := by
    simpa [isWhitespace] using h
  have hupper : c.toUpper = c := by
    apply toUpper_of_not_lower
    simp only [List.mem_cons, List.not_mem_nil, or_false] at hcases
    omega
  unfold upperCase
  split
  all_goals first
    | rw [hupper]
    | (rename_i heq
       rw [heq] at hcases
       simp at hcases)

theorem bitsOfChar_space {c : Char} (h : isWhitespace c = true) : bitsOfChar c = [] := by
  rw [bitsOfChar, upperCase_of_isWhitespace h]
  simp [h]

-- The padding that is cut off stands for no bits anyway.
theorem flatMap_unpadded (input : List Char) :
    (input.reverse.dropWhile (· == '=')).reverse.flatMap bitsOfChar = input.flatMap bitsOfChar := by
  have hpadding : (input.reverse.takeWhile (· == '=')).reverse.flatMap bitsOfChar = [] := by
    rw [List.flatMap_eq_nil_iff]
    intro c hmem
    have hc := List.mem_takeWhile_imp (List.mem_reverse.mp hmem)
    rw [beq_iff_eq.mp hc, bitsOfChar_pad]
  have hsplit : input = (input.reverse.dropWhile (· == '=')).reverse ++
      (input.reverse.takeWhile (· == '=')).reverse := by
    rw [← List.reverse_append, List.takeWhile_append_dropWhile, List.reverse_reverse]
  conv_rhs => rw [hsplit, List.flatMap_append, hpadding, List.append_nil]

theorem base32Decode_eq (input : List Char) :
    base32Decode input = (bitGroups 8 (input.flatMap bitsOfChar)).map UInt8.ofNat := by
  rw [← flatMap_unpadded]
  unfold base32Decode
  simp only [List.filter_flatMap, List.flatMap_assoc]
  rfl

theorem flatMap_respelt {numbers : List Nat} (hlt : ∀ n ∈ numbers, n < 32) {text other : List Char}
    (htext : text = numbers.map fun i => BASE32_ALPHABET.getD i 'A') (h : Respelt text other) :
    other.flatMap bitsOfChar = numbers.flatMap (toBits 5) := by
  induction h generalizing numbers with
  | nil =>
      rw [List.map_eq_nil_iff.mp htext.symm]
      rfl
  | same c _ ih =>
      obtain ⟨n, rest, rfl, rfl, rfl⟩ := List.map_eq_cons_iff.mp htext.symm
      obtain ⟨hn, hrest⟩ := List.forall_mem_cons.mp hlt
      rw [List.flatMap_cons, List.flatMap_cons, ih hrest rfl, (bitsOfChar_letter hn).1]
  | lower c _ ih =>
      obtain ⟨n, rest, rfl, rfl, rfl⟩ := List.map_eq_cons_iff.mp htext.symm
      obtain ⟨hn, hrest⟩ := List.forall_mem_cons.mp hlt
      rw [List.flatMap_cons, List.flatMap_cons, ih hrest rfl, (bitsOfChar_letter hn).2]
  | pad _ ih => rw [List.flatMap_cons, bitsOfChar_pad, List.nil_append, ih hlt htext]
  | space c hc _ ih => rw [List.flatMap_cons, bitsOfChar_space hc, List.nil_append, ih hlt htext]

-- Eight bits a byte and five a letter: with a multiple of five bytes no bit is dropped.
theorem base32Decode_respelt {bytes : List UInt8} (hlen : 5 ∣ bytes.length) {text : List Char}
    (htext : Respelt (base32Encode bytes) text) : base32Decode text = bytes := by
  have hbits : (bytes.flatMap fun byte => toBits 8 byte.toNat).length = bytes.length * 8 := by
    simp [List.length_flatMap, length_toBits]
  obtain ⟨count, hcount⟩ := hlen
  have hsplit := flatMap_bitGroups (Nat.succ_pos 4) (count * 8) (hbits.trans (by rw [hcount]; ring))
  rw [base32Decode_eq, flatMap_respelt (fun n hn => mem_bitGroups_lt hn) rfl htext, hsplit,
    bitGroups_flatMap (by decide) fun _ _ => length_toBits 8 _, List.map_map]
  conv_rhs => rw [← List.map_id bytes]
  apply List.map_congr_left
  intro byte _
  rw [Function.comp_apply, ofBits_toBits, Nat.mod_eq_of_lt byte.toNat_lt, UInt8.ofNat_toNat]
  rfl

end Decoding

section Window

variable {hmac : HmacSha1} {secret : List Char} {trimmed : List Char} {counter : Nat}

-- The counter as eight bytes, the high byte first.
def counterBytes (counter : Nat) : List UInt8 :=
  [56, 48, 40, 32, 24, 16, 8, 0].map fun shift => UInt8.ofNat (counter / 2 ^ shift)

def truncated (digest : List Nat) : Nat :=
  let offset := digest.getD 19 0 % 16
  digest.getD offset 0 % 128 * 2 ^ 24 + digest.getD (offset + 1) 0 * 2 ^ 16 +
    digest.getD (offset + 2) 0 * 2 ^ 8 + digest.getD (offset + 3) 0

-- The code of a counter: six decimal digits, padded with zeros.
def codeOf (hmac : HmacSha1) (key : List UInt8) (counter : Nat) : List Char :=
  (Nat.toDigits 10 (truncated ((hmac key (counterBytes counter)).toList.map UInt8.toNat) % 1000000)).leftpad 6 '0'

theorem isSixDigits_codeOf (hmac : HmacSha1) (key : List UInt8) (counter : Nat) :
    isSixDigits (codeOf hmac key counter) = true := by
  unfold codeOf
  generalize truncated ((hmac key (counterBytes counter)).toList.map UInt8.toNat) = value
  have hlen : (Nat.toDigits 10 (value % 1000000)).length ≤ 6 := by
    rw [Nat.length_toDigits_le_iff (by decide) (by decide)]
    exact Nat.mod_lt _ (by decide)
  rw [isSixDigits, Bool.and_eq_true]
  constructor
  · rw [decide_eq_true_eq, List.length_leftpad]
    omega
  · rw [List.all_eq_true]
    intro c hmem
    rw [List.leftpad, List.mem_append, List.mem_replicate] at hmem
    rcases hmem with ⟨_, rfl⟩ | hdigit
    · rfl
    · exact Nat.isDigit_of_mem_toDigits (by decide) (by decide) hdigit

theorem uint32BE_append (counter : Nat) :
    uint32BE (counter / 2 ^ 32) ++ uint32BE (counter % 2 ^ 32) = counterBytes counter := by
  have hbyte : ∀ {m n : Nat}, m % 256 = n % 256 → UInt8.ofNat m = UInt8.ofNat n :=
    fun h => UInt8.toNat.inj (by simpa using h)
  simp only [uint32BE, counterBytes, List.map_cons, List.map_nil, List.cons_append, List.nil_append]
  refine congrArg₂ _ (hbyte ?_) (congrArg₂ _ (hbyte ?_) (congrArg₂ _ (hbyte ?_) (congrArg₂ _ (hbyte ?_)
    (congrArg₂ _ (hbyte ?_) (congrArg₂ _ (hbyte ?_) (congrArg₂ _ (hbyte ?_) (congrArg₂ _ (hbyte ?_) rfl)))))))
  all_goals omega

theorem hotp_of_lt (hlt : counter < 2 ^ 64) :
    hotp hmac secret counter = .ok (codeOf hmac (base32Decode secret) counter) := by
  have hhigh : (counter : Int) / 2 ^ 32 = (counter / 2 ^ 32 : Nat) := by norm_cast
  have hlow : (counter : Int) % 2 ^ 32 = (counter % 2 ^ 32 : Nat) := by norm_cast
  have hword : counter / 2 ^ 32 < 2 ^ 32 := by omega
  unfold hotp
  rw [hhigh, hlow, if_neg (by omega), Int.toNat_natCast, Int.toNat_natCast, uint32BE_append]
  dsimp only
  rw [Nat.toString_eq_ofList_toDigits, String.toList_ofList]
  rfl

theorem hotp_of_ge (hmac : HmacSha1) (secret : List Char) (hge : 2 ^ 64 ≤ counter) :
    ∃ error, hotp hmac secret counter = .error error := by
  unfold hotp
  rw [if_pos (by omega)]
  exact ⟨_, rfl⟩

theorem matchesWindow_of_ok {middle window : Int} {code : List Char}
    (h : hotp hmac secret (middle + window) = .ok code) (rest : List Int) :
    matchesWindow hmac secret trimmed middle (window :: rest) =
      if code = trimmed then .ok true else matchesWindow hmac secret trimmed middle rest := by
  rw [matchesWindow, h]
  rfl

theorem matchesWindow_of_error {middle window : Int} {error : ServiceError}
    (h : hotp hmac secret (middle + window) = .error error) (rest : List Int) :
    matchesWindow hmac secret trimmed middle (window :: rest) = .error error := by
  rw [matchesWindow, h]
  rfl

-- One try of the loop: the code of its counter, or what the later tries find.
theorem matchesWindow_cons (hmac : HmacSha1) (secret trimmed : List Char) {middle window : Int}
    (hcounter : middle + window = counter) (rest : List Int) :
    matchesWindow hmac secret trimmed middle (window :: rest) = .ok true ↔
      counter < 2 ^ 64 ∧ (trimmed = codeOf hmac (base32Decode secret) counter ∨
        matchesWindow hmac secret trimmed middle rest = .ok true) := by
  rcases lt_or_ge counter (2 ^ 64) with hlt | hge
  · rw [matchesWindow_of_ok (hcounter ▸ hotp_of_lt hlt)]
    by_cases heq : codeOf hmac (base32Decode secret) counter = trimmed
    · rw [if_pos heq]
      exact ⟨fun _ => ⟨hlt, .inl heq.symm⟩, fun _ => rfl⟩
    · rw [if_neg heq]
      exact ⟨fun h => ⟨hlt, .inr h⟩, fun h => h.2.resolve_left fun h => heq h.symm⟩
  · obtain ⟨error, herror⟩ := hotp_of_ge hmac secret hge
    rw [matchesWindow_of_error (hcounter ▸ herror)]
    exact ⟨nofun, fun h => absurd h.1 (not_lt.mpr hge)⟩

-- The counters tried are those around the current one; later ones overflow first.
theorem matchesWindow_iff (hmac : HmacSha1) (secret trimmed : List Char) (previous : Nat) :
    matchesWindow hmac secret trimmed (previous + 1 : Nat) [-1, 0, 1] = .ok true ↔
      ∃ counter < 2 ^ 64, (counter = previous ∨ counter = previous + 1 ∨ counter = previous + 2) ∧
        trimmed = codeOf hmac (base32Decode secret) counter := by
  have hfirst : ((previous + 1 : Nat) : Int) + -1 = previous := by omega
  have hsecond : ((previous + 1 : Nat) : Int) + 0 = (previous + 1 : Nat) := by omega
  have hthird : ((previous + 1 : Nat) : Int) + 1 = (previous + 2 : Nat) := by omega
  rw [matchesWindow_cons _ _ _ hfirst, matchesWindow_cons _ _ _ hsecond, matchesWindow_cons _ _ _ hthird]
  constructor
  · rintro ⟨hfirst, rfl | ⟨hsecond, rfl | ⟨hthird, rfl | hnone⟩⟩⟩
    · exact ⟨previous, hfirst, .inl rfl, rfl⟩
    · exact ⟨previous + 1, hsecond, .inr (.inl rfl), rfl⟩
    · exact ⟨previous + 2, hthird, .inr (.inr rfl), rfl⟩
    · exact absurd hnone nofun
  · rintro ⟨_, hlt, rfl | rfl | rfl, hcode⟩
    · exact ⟨hlt, .inl hcode⟩
    · exact ⟨by omega, .inr ⟨hlt, .inl hcode⟩⟩
    · exact ⟨by omega, .inr ⟨by omega, .inr ⟨hlt, .inl hcode⟩⟩⟩

theorem verifyTotp_some (hmac : HmacSha1) (secret code : String) (now : Nat) :
    verifyTotp hmac (some secret) code now = .ok true ↔
      isSixDigits (trim code.toList) = true ∧
        matchesWindow hmac secret.toList (trim code.toList) (counterAt now) [-1, 0, 1] = .ok true := by
  unfold verifyTotp
  by_cases hsix : isSixDigits (trim code.toList) = true
  · simp [hsix]
  · rw [Bool.not_eq_true] at hsix
    simp [hsix]

-- The strings accepted are the codes of the counters around floor(now / 30 s), white space
-- at the ends apart, under the bytes that the secret spells.
theorem verifyTotp_accepts_window (hmac : HmacSha1) {bytes : List UInt8} (hlen : 5 ∣ bytes.length)
    {secret : String} (hsecret : Respelt (base32Encode bytes) secret.toList) (code : String) {now : Nat}
    (hnow : 30000 ≤ now) :
    base32Decode secret.toList = bytes ∧
    (verifyTotp hmac (some secret) code now = .ok true ↔
      ∃ counter < 2 ^ 64, (counter = now / 30000 - 1 ∨ counter = now / 30000 ∨ counter = now / 30000 + 1) ∧
        trim code.toList = codeOf hmac bytes counter) := by
  have hdecode := base32Decode_respelt hlen hsecret
  refine ⟨hdecode, ?_⟩
  obtain ⟨previous, hprevious⟩ : ∃ previous, now / 30000 = previous + 1 :=
    ⟨now / 30000 - 1, by omega⟩
  have hcounter : counterAt now = (previous + 1 : Nat) := by
    rw [counterAt, Nat.div_div_eq_div_mul, ← hprevious]
    rfl
  rw [verifyTotp_some, hcounter, matchesWindow_iff, hdecode, hprevious]
  constructor
  · exact And.right
  · rintro ⟨counter, hlt, hnear, hcode⟩
    refine ⟨?_, counter, hlt, hnear, hcode⟩
    rw [hcode]
    exact isSixDigits_codeOf hmac bytes counter

-- The key and the digests of the standard's test values, for the first three counters.
def testKey : List UInt8 := "12345678901234567890".toList.map fun c => UInt8.ofNat c.toNat

def testHmac : HmacSha1 := fun _ message =>
  match message.getD 7 0 with
  | 0 => #v[0xcc, 0x93, 0xcf, 0x18, 0x50, 0x8d, 0x94, 0x93, 0x4c, 0x64, 0xb6, 0x5d, 0x8b, 0xa7, 0x66, 0x7f,
      0xb7, 0xcd, 0xe4, 0xb0]
  | 1 => #v[0x75, 0xa4, 0x8a, 0x19, 0xd4, 0xcb, 0xe1, 0x00, 0x64, 0x4e, 0x8a, 0xc1, 0x39, 0x7e, 0xea, 0x74,
      0x7a, 0x2d, 0x33, 0xab]
  | _ => #v[0x0b, 0xac, 0xb7, 0xfa, 0x08, 0x2f, 0xef, 0x30, 0x78, 0x22, 0x11, 0x93, 0x8b, 0xc1, 0xc5, 0xe7,
      0x04, 0x16, 0xff, 0x44]

def testSecret : String :=
  let letters := (base32Encode testKey).map Char.toLower
  String.ofList (letters.take 4 ++ ' ' :: (letters.drop 4 ++ ['=', '=']))

theorem respelt_testSecret : Respelt (base32Encode testKey) testSecret.toList := by
  rw [testSecret, String.toList_ofList]
  apply Respelt.spaced (c := ' ') rfl
  rw [← List.append_assoc, List.take_append_drop]
  exact (Respelt.lowerCased _).padded 2

theorem verifyTotp_accepts_testCode :
    verifyTotp testHmac (some testSecret) " 287082" 59000 = .ok true :=
  (verifyTotp_accepts_window testHmac (by decide) respelt_testSecret " 287082" (by decide)).2.mpr
    ⟨1, by decide, by decide, by decide⟩

end Window

end CloudOps.Platform
