import WalnutGateway.Uart.UserReply
import Mathlib.Tactic.IntervalCases

/-!
# User replies are rendered safely

Whatever the payload is, a reply is made without reading past it, and the buffer holds a text. A
list is the text of its records, cut at the end of the buffer. So the last record in it may be a
part of one: it is not, exactly where the whole list fits or a record ends with the buffer.
-/

namespace WalnutGateway

/-- A reply was made, and its memory holds a text. -/
def Rendered (out : List Byte) (r : UserReply) : Prop :=
  ∃ n mem, r = some (n, mem) ∧ mem.length = out.length ∧ 0 ∈ mem

section Rendered

variable {pl out : List Byte}

theorem zero_mem_writeText {off : Nat} (h : off < out.length) (text : List Byte) :
    0 ∈ writeText out off text := by
  rw [writeText, if_pos h]
  exact List.mem_append_right _ List.mem_cons_self

theorem rendered_replyText (h : 0 < out.length) (text : List Byte) :
    Rendered out (replyText out text) :=
  ⟨_, _, rfl, length_writeText out 0 text, zero_mem_writeText h text⟩

theorem rendered_replyHex (h : 0 < out.length) (head data : List Byte) :
    Rendered out (replyHex out head data) := by
  have hlen := length_writeText out 0 head
  unfold replyHex
  dsimp only
  split_ifs with hfull hdata
  · exact ⟨_, _, rfl, hlen, zero_mem_writeText h head⟩
  · exact ⟨_, _, rfl, (length_writeText _ 0 _).trans hlen, zero_mem_writeText (by omega) _⟩
  · exact ⟨_, _, rfl, (length_writeText _ _ _).trans hlen, zero_mem_writeText (by omega) _⟩

theorem payloadSlice_eq {i n : Nat} (h : i + n ≤ pl.length) :
    payloadSlice pl i n = some ((pl.drop i).take n) := if_pos h

theorem payloadWord_eq {i n : Nat} (h : i + n ≤ pl.length) :
    payloadWord pl i n = some (beNat ((pl.drop i).take n)) := by
  rw [payloadWord, payloadSlice_eq h, Option.map_some]

/-- A byte of the payload is there to be read. -/
theorem Rendered.byte {i : Nat} {k : Byte → UserReply} (h : i < pl.length)
    (hk : ∀ b, Rendered out (k b)) : Rendered out (pl[i]? >>= k) := by
  rw [List.getElem?_eq_getElem h]
  exact hk _

theorem Rendered.slice {i n : Nat} {k : List Byte → UserReply} (h : i + n ≤ pl.length)
    (hk : ∀ s, Rendered out (k s)) : Rendered out (payloadSlice pl i n >>= k) := by
  rw [payloadSlice_eq h]
  exact hk _

theorem Rendered.word {i n : Nat} {k : Nat → UserReply} (h : i + n ≤ pl.length)
    (hk : ∀ v, Rendered out (k v)) : Rendered out (payloadWord pl i n >>= k) := by
  rw [payloadWord_eq h]
  exact hk _

theorem Rendered.ite {c : Prop} [Decidable c] {r r' : UserReply} (h : Rendered out r)
    (h' : Rendered out r') : Rendered out (if c then r else r') := by
  split_ifs
  · exact h
  · exact h'

end Rendered

/-! ## Replies without a list -/

section Replies

variable {pl out : List Byte} (hout : 0 < out.length)

theorem exists_deviceText (pl : List Byte) (done : String) : ∃ d, deviceText pl done = some d := by
  unfold deviceText
  split_ifs with hlen
  · rw [List.getElem?_eq_getElem (by omega : 1 < pl.length),
      List.getElem?_eq_getElem (by omega : 2 < pl.length)]
    simp only [Option.bind_eq_bind, Option.bind_some]
    split_ifs with hfits
    · rw [payloadSlice_eq (by omega), payloadSlice_eq (by omega)]
      exact ⟨_, rfl⟩
    · exact ⟨_, rfl⟩
  · exact ⟨_, rfl⟩

include hout

theorem rendered_respSetBlePeri (status reqDevId : Byte) :
    Rendered out (respSetBlePeri pl status reqDevId out) := by
  let sameMac (id : Byte) := replyText out
    (asciiBytes "Device already configured with same MAC at id " ++ byteDecimal id)
  have hrest : Rendered out (if status = 0x02 then
      replyText out (asciiBytes "Device is already configured for id " ++ byteDecimal reqDevId ++
        asciiBytes ", first delete it.")
    else if status = 0x04 then if pl.length ≥ 2 then pl[1]? >>= sameMac else sameMac 0
    else replyText out (asciiBytes "Fail")) := by
    split_ifs
    · exact rendered_replyText hout _
    · exact .byte (by omega) fun id => rendered_replyText hout _
    · exact rendered_replyText hout _
    · exact rendered_replyText hout _
  obtain ⟨device, hdevice⟩ := exists_deviceText pl "-configured-OK"
  unfold respSetBlePeri
  dsimp only
  rw [hdevice]
  by_cases hok : status = 0x00
  · rw [if_pos hok]
    cases device with
    | some text => exact rendered_replyText hout _
    | none => exact hrest
  · rw [if_neg hok]
    exact hrest

theorem rendered_respDelBlePeri (status : Byte) :
    Rendered out (respDelBlePeri pl status out) := by
  obtain ⟨device, hdevice⟩ := exists_deviceText pl "-delete-OK"
  unfold respDelBlePeri
  dsimp only
  rw [hdevice]
  split_ifs
  · exact rendered_replyText hout _
  · exact rendered_replyText hout _

theorem rendered_respDevInfo (status : Byte) : Rendered out (respDevInfo pl status out) := by
  unfold respDevInfo
  split_ifs with h
  · refine .word (by omega) fun fw => .word (by omega) fun hw => .slice (by omega) fun mac => ?_
    refine .byte (by omega) fun ble => .byte (by omega) fun cfg => .byte (by omega) fun rr => ?_
    exact .word (by omega) fun rc => rendered_replyText hout _
  · exact rendered_replyText hout _

theorem rendered_respSystemUpdate (status : Byte) :
    Rendered out (respSystemUpdate pl status out) := by
  unfold respSystemUpdate
  split_ifs with h
  · rw [healthStmBlockLen] at h
    refine .word (by omega) fun fw => .word (by omega) fun reboots => .byte (by omega) fun f1 => ?_
    refine .byte (by omega) fun f2 => .word (by omega) fun masks => .word (by omega) fun up => ?_
    exact .slice (by omega) fun rest => rendered_replyText hout _
  · exact rendered_replyText hout _

theorem rendered_respHexData (cmd status : Byte) :
    Rendered out (respHexData cmd pl status out) := by
  unfold respHexData
  dsimp only
  split_ifs with hstatus hcmd hone htwo hname hlen
  · exact rendered_replyText hout _
  · exact rendered_replyText hout _
  · exact rendered_replyText hout _
  · exact rendered_replyText hout _
  · exact rendered_replyText hout _
  · exact rendered_replyText hout _
  · refine .word (by omega) fun dlen => ?_
    split_ifs with hdata
    · exact rendered_replyText hout _
    · exact .slice (by omega) fun data => rendered_replyHex hout _ data

theorem rendered_respPeriInfo (status : Byte) : Rendered out (respPeriInfo pl status out) := by
  unfold respPeriInfo
  split_ifs with h
  · exact rendered_replyText hout _
  · refine .word (by omega) fun fwv => .byte (by omega) fun hwl => ?_
    split_ifs with hfits
    · exact rendered_replyText hout _
    · exact .slice (by omega) fun hw => .slice (by omega) fun mac => rendered_replyText hout _

theorem rendered_respBleData (status : Byte) : Rendered out (respBleData pl status out) := by
  unfold respBleData
  split_ifs with h
  · exact rendered_replyText hout _
  · refine .byte (by omega) fun count => .word (by omega) fun tlen => ?_
    split_ifs with hfits
    · exact rendered_replyText hout _
    · exact .slice (by omega) fun data => rendered_replyHex hout _ data

theorem rendered_respPeriLink (status : Byte) : Rendered out (respPeriLink pl status out) := by
  unfold respPeriLink
  split_ifs with h
  · exact rendered_replyText hout _
  · exact .slice (by omega) fun link => rendered_replyText hout _

theorem rendered_respScanOn (status : Byte) : Rendered out (respScanOn status out) := by
  unfold respScanOn
  split_ifs
  · exact rendered_replyText hout _
  · exact rendered_replyText hout _
  · exact rendered_replyText hout _

end Replies

/-! ## The lists -/

/-- The reboots that are wholly in the rest of a payload, at most `n`. -/
def rebootRecords : Nat → List Byte → List (List Byte)
  | 0, _ => []
  | n + 1, rest =>
    if rest.length < 5 then []
    else rebootText (rest.getD 0 0) (beNat ((rest.drop 1).take 4)) :: rebootRecords n (rest.drop 5)

/-- The devices that are wholly in the rest of a payload, at most `n`. -/
def blePeriRecords : Nat → List Byte → List (List Byte)
  | 0, _ => []
  | n + 1, rest =>
    let nl := (rest.getD 7 0).toNat
    if rest.length < 8 + nl + 8 then []
    else
      let tail := rest.drop (8 + nl)
      blePeriText (rest.getD 0 0) ((rest.drop 1).take 6) ((rest.drop 8).take nl)
        (beNat (tail.take 4)) (tail.getD 4 0) (tail.getD 5 0) (tail.getD 6 0) (tail.getD 7 0) ::
        blePeriRecords n (tail.drop 8)

/-- `COUNT` of a list. -/
def listCount (pl : List Byte) : Byte := pl.getD 1 0

/-- The texts of the records of a list. -/
def listRecords (cmd : Byte) (pl : List Byte) : List (List Byte) :=
  if cmd = 0x85 then rebootRecords (listCount pl).toNat (pl.drop 2)
  else blePeriRecords (listCount pl).toNat (pl.drop 2)

/-- The payload is that of a list. -/
structure IsList (cmd : Byte) (pl : List Byte) : Prop where
  cmd_eq : cmd = 0x85 ∨ cmd = 0xA3
  status : pl.getD 0 0xFF = 0x00
  count : 2 ≤ pl.length

theorem getD_of_lt {pl : List Byte} {i : Nat} (h : i < pl.length) :
    pl[i]? = some (pl.getD i 0) := by
  rw [List.getD_eq_getElem?_getD, List.getElem?_eq_getElem h, Option.getD_some]

theorem getD_drop (pl : List Byte) (i j : Nat) : (pl.drop i).getD j 0 = pl.getD (i + j) 0 := by
  rw [List.getD_eq_getElem?_getD, List.getD_eq_getElem?_getD, List.getElem?_drop]

/-- The loop over the reboots appends their records. -/
theorem rebootLoop_eq (pl : List Byte) (n i off : Nat) (out : List Byte) :
    rebootLoop pl n i off out =
      some (appendTexts off out (rebootRecords n (pl.drop (2 + i * 5)))) := by
  induction n generalizing i off out with
  | zero => rfl
  | succ n ih =>
    unfold rebootLoop rebootRecords
    dsimp only
    rw [List.length_drop]
    by_cases hend : 2 + i * 5 + 5 > pl.length
    · rw [if_pos hend, if_pos (by omega)]
      rfl
    · rw [if_neg hend, if_neg (by omega), getD_of_lt (by omega : 2 + i * 5 < pl.length),
        payloadWord_eq (by omega), getD_drop, List.drop_drop, List.drop_drop]
      simp only [Option.bind_eq_bind, Option.bind_some, appendTexts, ih, Nat.add_zero,
        show 2 + (i + 1) * 5 = 2 + i * 5 + 5 by omega]
      split_ifs <;> rfl

/-- The loop over the devices appends their records. -/
theorem blePeriLoop_eq (pl : List Byte) (n idx off : Nat) (out : List Byte) :
    blePeriLoop pl n idx off out = some (appendTexts off out (blePeriRecords n (pl.drop idx))) := by
  induction n generalizing idx off out with
  | zero => rfl
  | succ n ih =>
    unfold blePeriLoop blePeriRecords
    dsimp only
    rw [List.length_drop, getD_drop]
    by_cases hend : idx + 8 > pl.length
    · rw [if_pos hend, if_pos (by omega)]
      rfl
    · rw [if_neg hend, getD_of_lt (by omega : idx < pl.length),
        getD_of_lt (by omega : idx + 7 < pl.length)]
      generalize hnl : (pl.getD (idx + 7) 0).toNat = nl
      simp only [Option.bind_eq_bind, Option.bind_some, hnl]
      by_cases hfits : idx + 8 + nl + 4 + 1 + 1 + 1 + 1 > pl.length
      · rw [if_pos hfits, if_pos (by omega)]
        rfl
      · rw [if_neg hfits, if_neg (by omega), payloadSlice_eq (by omega), payloadSlice_eq (by omega),
          payloadWord_eq (by omega), getD_of_lt (by omega : idx + 8 + nl + 4 < pl.length),
          getD_of_lt (by omega : idx + 8 + nl + 5 < pl.length),
          getD_of_lt (by omega : idx + 8 + nl + 6 < pl.length),
          getD_of_lt (by omega : idx + 8 + nl + 7 < pl.length)]
        simp only [Option.bind_some, getD_drop, List.drop_drop, Nat.add_zero, appendTexts, ih,
          show idx + (8 + nl) = idx + 8 + nl by omega,
          show idx + 8 + nl + 4 + 1 + 1 + 1 + 1 = idx + 8 + nl + 8 by omega]
        split_ifs <;> rfl

theorem length_rebootRecords (n : Nat) (rest : List Byte) : (rebootRecords n rest).length ≤ n := by
  induction n generalizing rest with
  | zero => exact le_rfl
  | succ n ih =>
    unfold rebootRecords
    split_ifs
    · exact Nat.zero_le _
    · exact Nat.succ_le_succ (ih _)

theorem length_blePeriRecords (n : Nat) (rest : List Byte) :
    (blePeriRecords n rest).length ≤ n := by
  induction n generalizing rest with
  | zero => exact le_rfl
  | succ n ih =>
    unfold blePeriRecords
    dsimp only
    split_ifs
    · exact Nat.zero_le _
    · exact Nat.succ_le_succ (ih _)

theorem length_listRecords (cmd : Byte) (pl : List Byte) :
    (listRecords cmd pl).length ≤ (listCount pl).toNat := by
  unfold listRecords
  split_ifs
  · exact length_rebootRecords _ _
  · exact length_blePeriRecords _ _

/-! ## The records hold no NUL -/

/-- The pieces of a format hold no NUL. -/
def IsText (s : List Byte) : Prop := ∀ b ∈ s, b ≠ 0

theorem isText_flatten {pieces : List (List Byte)} (h : ∀ s ∈ pieces, IsText s) :
    IsText pieces.flatten := by
  intro b hb
  obtain ⟨s, hs, hb⟩ := List.mem_flatten.mp hb
  exact h s hs b hb

theorem isText_cString (s : List Byte) : IsText (cString s) := fun _ => ne_zero_of_mem_cString

theorem digitByte_ne_zero {d : Nat} (h : d < 10) : digitByte d ≠ 0 := by
  intro hzero
  have hnat := toNat_digitByte h
  rw [hzero] at hnat
  change 0 = 0x30 + d at hnat
  omega

theorem isText_decimalBytes (n : Nat) : IsText (decimalBytes n) := by
  intro b hb
  obtain ⟨d, hd, rfl⟩ := mem_decimalDigits hb
  exact digitByte_ne_zero hd

theorem isText_hexUpper (b : Byte) : IsText (hexUpper b) := by
  have hchar : ∀ d < 16, hexChar 0x41 d ≠ 0 := by decide
  have hlt := b.toNat_lt
  intro c hc
  rcases List.mem_cons.mp hc with rfl | hc
  · exact hchar _ (by omega)
  · rw [List.mem_singleton.mp hc]
    exact hchar _ (by omega)

theorem isText_flatMap_hexUpper (s : List Byte) : IsText (s.flatMap hexUpper) := by
  intro b hb
  obtain ⟨c, -, hb⟩ := List.mem_flatMap.mp hb
  exact isText_hexUpper c b hb

theorem isText_ok : IsText (asciiBytes "Ok,") := by
  unfold IsText
  decide +kernel

theorem isText_listHead (count : Byte) : IsText (listHead count) := by
  intro b hb
  rcases List.mem_append.mp hb with hb | hb
  · exact isText_ok b hb
  · exact isText_decimalBytes _ b hb

theorem isText_singleton {b : Byte} (h : b ≠ 0) : IsText [b] := by
  intro c hc
  rwa [List.mem_singleton.mp hc]

theorem isText_append {s t : List Byte} (hs : IsText s) (ht : IsText t) : IsText (s ++ t) :=
  fun b hb => (List.mem_append.mp hb).elim (hs b) (ht b)

theorem isText_digits2 {n : Nat} (h : n < 1000) : IsText (digits2 n) := by
  have hchar {d : Nat} (hd : d < 100) : UInt8.ofNat (0x30 + d) ≠ 0 := by
    intro hzero
    have hnat := congrArg UInt8.toNat hzero
    rw [UInt8.toNat_ofNat'] at hnat
    change (0x30 + d) % 256 = 0 at hnat
    omega
  intro b hb
  rcases List.mem_cons.mp hb with rfl | hb
  · exact hchar (by omega)
  · rw [List.mem_singleton.mp hb]
    exact hchar (by omega)

theorem isText_fmtIstDatetime (epoch : UInt32) (size : Nat) :
    IsText (fmtIstDatetime epoch size) := by
  have hbyte (b : UInt8) : IsText (digits2 b.toNat) :=
    isText_digits2 (b.toNat_lt.trans (by decide))
  have hyear := (fmtIstFields epoch).year.toNat_lt
  have hpunct {b : Byte} (hb : b ≠ 0) {s : List Byte} (hs : IsText s) : IsText (s ++ [b]) :=
    isText_append hs (isText_singleton hb)
  unfold fmtIstDatetime
  dsimp only
  refine fun b hb => ?_
  refine isText_append ?_ (hbyte _) b (List.mem_of_mem_take hb)
  refine hpunct (by decide) (isText_append ?_ (hbyte _))
  refine hpunct (by decide) (isText_append ?_ (hbyte _))
  refine hpunct (by decide) (isText_append (isText_append ?_ (isText_digits2 (by omega)))
    (isText_digits2 (by omega)))
  exact hpunct (by decide) (isText_append (hpunct (by decide) (hbyte _)) (hbyte _))

theorem isText_rebootText (reason : Byte) (epoch : Nat) : IsText (rebootText reason epoch) := by
  have hcomma : IsText [comma] := isText_singleton (by decide)
  have hslash : IsText (asciiBytes "/") := isText_singleton (by decide)
  refine isText_flatten ?_
  simp only [List.forall_mem_cons, hcomma, hslash, isText_fmtIstDatetime, byteDecimal,
    isText_decimalBytes, true_and, List.not_mem_nil, false_imp_iff, implies_true]

theorem rebootText_ne_nil (reason : Byte) (epoch : Nat) : rebootText reason epoch ≠ [] := by
  rw [rebootText, List.flatten_cons]
  exact List.append_ne_nil_of_left_ne_nil (List.cons_ne_nil _ _) _

theorem blePeriText_ne_nil (devid : Byte) (mac nm : List Byte) (interval : Nat)
    (dtype offl gps conn : Byte) :
    blePeriText devid mac nm interval dtype offl gps conn ≠ [] := by
  rw [blePeriText, List.flatten_cons]
  exact List.append_ne_nil_of_left_ne_nil (List.cons_ne_nil _ _) _

theorem isText_blePeriText (devid : Byte) (mac nm : List Byte) (interval : Nat)
    (dtype offl gps conn : Byte) :
    IsText (blePeriText devid mac nm interval dtype offl gps conn) := by
  have hcomma : IsText [comma] := isText_singleton (by decide)
  have hslash : IsText (asciiBytes "/") := isText_singleton (by decide)
  have htype : IsText (asciiBytes (if dtype = 0x33 then "1" else "0")) := by
    split_ifs
    · exact isText_singleton (by decide)
    · exact isText_singleton (by decide)
  refine isText_flatten ?_
  simp only [List.forall_mem_cons, hcomma, hslash, htype, byteDecimal, isText_decimalBytes,
    isText_flatMap_hexUpper, isText_cString, true_and, List.not_mem_nil, false_imp_iff,
    implies_true]

/-- A record is a text that is not empty. -/
theorem listRecords_text {cmd : Byte} {pl : List Byte} :
    ∀ text ∈ listRecords cmd pl, text ≠ [] ∧ IsText text := by
  have hreboot (n : Nat) (rest : List Byte) : ∀ text ∈ rebootRecords n rest,
      text ≠ [] ∧ IsText text := by
    induction n generalizing rest with
    | zero => exact nofun
    | succ n ih =>
      unfold rebootRecords
      split_ifs
      · exact nofun
      · exact List.forall_mem_cons.mpr
          ⟨⟨rebootText_ne_nil _ _, isText_rebootText _ _⟩, ih _⟩
  have hble (n : Nat) (rest : List Byte) : ∀ text ∈ blePeriRecords n rest,
      text ≠ [] ∧ IsText text := by
    induction n generalizing rest with
    | zero => exact nofun
    | succ n ih =>
      unfold blePeriRecords
      dsimp only
      split_ifs
      · exact nofun
      · exact List.forall_mem_cons.mpr
          ⟨⟨blePeriText_ne_nil _ _ _ _ _ _ _ _, isText_blePeriText _ _ _ _ _ _ _ _⟩, ih _⟩
  unfold listRecords
  split_ifs
  · exact hreboot _ _
  · exact hble _ _

theorem length_listHead (count : Byte) : 0 < (listHead count).length ∧
    (listHead count).length ≤ 6 := by
  have hdigits : ∀ n < 256, (decimalBytes n).length ≤ 3 := by decide +kernel
  have hle := hdigits count.toNat count.toNat_lt
  rw [listHead, List.length_append, byteDecimal, show (asciiBytes "Ok,").length = 3 by decide]
  omega

/-! ## The whole function -/

/-- A list is made by appending its records behind its head. -/
theorem IsList.build_eq {cmd : Byte} {pl : List Byte} (h : IsList cmd pl) (reqDevId : Byte)
    {out : List Byte} (hsize : 32 ≤ out.length) :
    uartBuildUserResp cmd pl reqDevId out =
      some (appendTexts (listHead (listCount pl)).length
        (writeText out 0 (listHead (listCount pl))) (listRecords cmd pl)) := by
  have hlen := h.count
  obtain ⟨hpos, hle⟩ := length_listHead (listCount pl)
  have hstatus : pl[0]? = some 0x00 := by
    rw [getD_of_lt (by omega), ← h.status, List.getD_eq_getElem?_getD, List.getD_eq_getElem?_getD,
      List.getElem?_eq_getElem (by omega), Option.getD_some, Option.getD_some]
  have hcount : pl[1]? = some (listCount pl) := getD_of_lt (by omega)
  have hnot : ¬ ((listHead (listCount pl)).length = 0 ∨
      (listHead (listCount pl)).length ≥ out.length) := by omega
  unfold uartBuildUserResp
  rw [if_pos (by omega), hstatus]
  rcases h.cmd_eq with rfl | rfl
  · change respRebootInfo pl 0x00 out = _
    unfold respRebootInfo
    rw [if_neg (by simp; omega), hcount]
    dsimp only [Option.bind_eq_bind, Option.bind_some]
    rw [if_neg hnot, rebootLoop_eq]
    rfl
  · change respBlePeriList pl 0x00 reqDevId out = _
    unfold respBlePeriList
    rw [if_neg (by decide), if_neg (by decide), if_neg (by simp; omega), hcount]
    dsimp only [Option.bind_eq_bind, Option.bind_some]
    rw [if_neg hnot, blePeriLoop_eq]
    rfl

/-- Appending keeps the buffer ended. -/
theorem rendered_appendTexts {out mem : List Byte} {off : Nat} (texts : List (List Byte))
    (hlen : mem.length = out.length) (hoff : off < mem.length) (hzero : 0 ∈ mem) :
    Rendered out (some (appendTexts off mem texts)) := by
  induction texts generalizing off mem with
  | nil => exact ⟨_, _, rfl, hlen, hzero⟩
  | cons text texts ih =>
    have hlen' := (length_writeText mem off text).trans hlen
    have hzero' := zero_mem_writeText hoff text
    unfold appendTexts
    split_ifs with hfull
    · exact ⟨_, _, rfl, hlen', hzero'⟩
    · exact ih hlen' (by omega) hzero'

section Lists

variable {pl out : List Byte} (hout : 0 < out.length)
include hout

theorem rendered_respRebootInfo (status : Byte) : Rendered out (respRebootInfo pl status out) := by
  unfold respRebootInfo
  split_ifs with h
  · exact rendered_replyText hout _
  · refine .byte (by omega) fun count => ?_
    have hlen := length_writeText out 0 (listHead count)
    dsimp only
    split_ifs with hfull
    · exact ⟨_, _, rfl, hlen, zero_mem_writeText hout _⟩
    · rw [rebootLoop_eq]
      exact rendered_appendTexts _ hlen (by omega) (zero_mem_writeText hout _)

theorem rendered_respBlePeriList (status reqDevId : Byte) :
    Rendered out (respBlePeriList pl status reqDevId out) := by
  unfold respBlePeriList
  split_ifs with hinvalid hmissing h
  · exact rendered_replyText hout _
  · exact rendered_replyText hout _
  · exact rendered_replyText hout _
  · refine .byte (by omega) fun count => ?_
    have hlen := length_writeText out 0 (listHead count)
    dsimp only
    split_ifs with hfull
    · exact ⟨_, _, rfl, hlen, zero_mem_writeText hout _⟩
    · rw [blePeriLoop_eq]
      exact rendered_appendTexts _ hlen (by omega) (zero_mem_writeText hout _)

/-- Every reply is rendered. -/
theorem rendered_uartBuildUserResp (cmd : Byte) (pl : List Byte) (reqDevId : Byte) :
    Rendered out (uartBuildUserResp cmd pl reqDevId out) := by
  have hcases (status : Byte) : Rendered out (respOfCmd cmd pl status reqDevId out) := by
    refine .ite (rendered_respSetBlePeri hout status reqDevId) ?_
    refine .ite (rendered_respDelBlePeri hout status) ?_
    refine .ite (rendered_respDevInfo hout status) ?_
    refine .ite (rendered_respSystemUpdate hout status) ?_
    refine .ite (rendered_respRebootInfo hout status) ?_
    refine .ite (rendered_respHexData hout cmd status) ?_
    refine .ite (rendered_respPeriInfo hout status) ?_
    refine .ite (rendered_respBleData hout status) ?_
    refine .ite (rendered_respPeriLink hout status) ?_
    refine .ite (rendered_respBlePeriList hout status reqDevId) ?_
    exact .ite (rendered_respScanOn hout status) (rendered_replyText hout _)
  unfold uartBuildUserResp
  by_cases hlen : pl.length ≥ 1
  · rw [if_pos hlen]
    exact .byte hlen hcases
  · rw [if_neg hlen]
    exact hcases 0xFF

end Lists

/-- A reply is made without reading past the payload, the buffer ends in a NUL, and a list in it
has only complete records, in their order. -/
def RenderedSafely (cmd : Byte) (pl : List Byte) (reqDevId : Byte) (out : List Byte) : Prop :=
  ∃ n mem, uartBuildUserResp cmd pl reqDevId out = some (n, mem) ∧ mem.length = out.length ∧
    0 ∈ mem ∧ (IsList cmd pl → ∃ k ≤ (listRecords cmd pl).length, k ≤ (listCount pl).toNat ∧
      cString mem = listHead (listCount pl) ++ ((listRecords cmd pl).take k).flatten)

/-- The list fits into a buffer, or a record ends with its last character. -/
def ListFits (cmd : Byte) (pl : List Byte) (size : Nat) : Prop :=
  (listHead (listCount pl) ++ (listRecords cmd pl).flatten).length ≤ size - 1 ∨
    ∃ k ≤ (listRecords cmd pl).length,
      (listHead (listCount pl) ++ ((listRecords cmd pl).take k).flatten).length = size - 1

/-- A reply is rendered safely exactly if it is no list, or a list that is not cut inside a
record. -/
theorem uart_user_reply (cmd : Byte) (pl : List Byte) (reqDevId : Byte) (out : List Byte)
    (hsize : 32 ≤ out.length) :
    RenderedSafely cmd pl reqDevId out ↔ (IsList cmd pl → ListFits cmd pl out.length) := by
  have htext := isText_listHead (listCount pl)
  obtain ⟨-, hle⟩ := length_listHead (listCount pl)
  have hhead := writeText_zero (by omega : 0 < out.length) htext
  rw [List.take_of_length_le (by omega)] at hhead
  have hlisted : ∀ text ∈ listRecords cmd pl, text ≠ [] ∧ IsText text := listRecords_text
  have hat := (hhead.appendTexts hlisted).1.cString_eq
  rw [length_writeText] at hat
  unfold ListFits
  rw [← take_eq_records_iff]
  constructor
  · rintro ⟨n, mem, hbuild, -, -, hrecords⟩ hlist
    obtain ⟨k, hk, -, hwhole⟩ := hrecords hlist
    rw [hlist.build_eq reqDevId hsize, Option.some.injEq] at hbuild
    rw [hbuild] at hat
    exact ⟨k, hk, hat.symm.trans hwhole⟩
  · intro hfits
    obtain ⟨n, mem, hbuild, hlen, hzero⟩ :=
      rendered_uartBuildUserResp (by omega : 0 < out.length) cmd pl reqDevId
    refine ⟨n, mem, hbuild, hlen, hzero, fun hlist => ?_⟩
    obtain ⟨k, hk, hwhole⟩ := hfits hlist
    rw [hlist.build_eq reqDevId hsize, Option.some.injEq] at hbuild
    rw [hbuild] at hat
    exact ⟨k, hk, hk.trans (length_listRecords cmd pl), hat.trans hwhole⟩

/-- One reboot fits into the smallest buffer. -/
theorem uart_user_reply_one_reboot :
    RenderedSafely 0x85 [0x00, 0x01, 0x01, 0x00, 0x00, 0x00, 0x00] 0x00 (List.replicate 32 0x00) :=
  (uart_user_reply 0x85 [0x00, 0x01, 0x01, 0x00, 0x00, 0x00, 0x00] 0x00 (List.replicate 32 0x00)
    (by decide)).mpr fun _ => .inl (by decide +kernel)

/-- The second of two reboots is cut behind its reason and a digit of the day. -/
theorem uart_user_reply_cuts_a_record : ¬ RenderedSafely 0x85
    [0x00, 0x02, 0x01, 0x00, 0x00, 0x00, 0x00, 0x02, 0x00, 0x00, 0x00, 0x00] 0x00
    (List.replicate 32 0x00) := by
  rintro ⟨n, mem, hbuild, -, -, hrecords⟩
  obtain ⟨k, hk, -, hwhole⟩ := hrecords ⟨.inl rfl, rfl, by decide⟩
  have htext : (uartBuildUserResp 0x85
      [0x00, 0x02, 0x01, 0x00, 0x00, 0x00, 0x00, 0x02, 0x00, 0x00, 0x00, 0x00] 0x00
      (List.replicate 32 0x00)).map (fun r => cString r.2) =
      some (asciiBytes "Ok,2,1/01-01-1970 05:30:00,2/01") := by
    decide +kernel
  rw [hbuild, Option.map_some, Option.some.injEq] at htext
  have hlength := congrArg List.length (htext.symm.trans hwhole)
  have hk : k ≤ 2 := hk
  interval_cases k
  · exact absurd hlength (by decide +kernel)
  · exact absurd hlength (by decide +kernel)
  · exact absurd hlength (by decide +kernel)

end WalnutGateway
