import WalnutGateway.Queue.Lifetime

/-!
# A failed append

`queue_file_append` opens the overflow file in append mode and advances
`file_size` only when all writes were complete. What a write that fails half-way
has moved stays in the file, behind the end that RAM knows, and the next record
goes behind it. So a failed append goes unnoticed only if it moved nothing, and
if making room for its record did not delete unread ones.
-/

namespace WalnutGateway

variable {α : Type}

/-- The calls on the overflow file. -/
inductive OverflowOp (α : Type)
  | append (elem : α)
  | read
  | peek (which : Nat)

/-- Their answers. -/
inductive OverflowReply (α : Type)
  | appended (result : Result)
  | got (elem : Except Result α)
  deriving DecidableEq

/-- The overflow file under a sequence of calls. -/
def overflowMachine (cfg : QueueConfig α) :
    Machine (Device α) (OverflowOp α) (OverflowReply α) where
  step d
    | .append elem => (.appended (queueFileAppend cfg d elem).1, (queueFileAppend cfg d elem).2)
    | .read => (.got (queueFileRead cfg d).1, (queueFileRead cfg d).2)
    | .peek which =>
      (.got (queueFilePeekElement cfg d which).1, (queueFilePeekElement cfg d which).2)

/-- The file is not opened, or the first write ends before its first byte. -/
def NothingMoved (outcomes : List IoOutcome) : Prop :=
  outcomes.headD .success ≠ .success ∨
    outcomes.tail.headD .success = .short 0 ∨ outcomes.tail.headD .success = .fail 0

instance (outcomes : List IoOutcome) : Decidable (NothingMoved outcomes) :=
  inferInstanceAs (Decidable (_ ∨ _))

/-- No unread record has to go to make room, and no byte of a record is moved. -/
def HarmlessAppend (cfg : QueueConfig α) (d : Device α) (elem : α)
    (outcomes : List IoOutcome) : Prop :=
  ∀ n ∈ queueFileRecordSize cfg elem,
    (d.q.fileSize + n ≤ cfg.maxFileSize ∨ d.q.fileSize = 0) ∧
      (queueRecord cfg elem = none ∨
        NothingMoved (queueFileMakeRoom cfg (d.under outcomes) n).flash.outcomes)

instance (cfg : QueueConfig α) (d : Device α) (elem : α) (outcomes : List IoOutcome) :
    Decidable (HarmlessAppend cfg d elem outcomes) :=
  inferInstanceAs (Decidable (∀ n ∈ queueFileRecordSize cfg elem, _))

/-- The device after an append under the given driver outcomes. -/
def Device.afterAppend (cfg : QueueConfig α) (d : Device α) (elem : α)
    (outcomes : List IoOutcome) : Device α :=
  (queueFileAppend cfg (d.under outcomes) elem).2.under []

/-! ## What a failed append leaves in the file -/

section Failed

variable {cfg : QueueConfig α}

/-- A moved part is a prefix, and empty only if nothing was moved. -/
theorem IoOutcome.moved_prefix (o : IoOutcome) (data : List Byte) : o.moved data <+: data := by
  cases o with
  | success => exact List.prefix_rfl
  | short k => exact List.take_prefix k data
  | fail k => exact List.take_prefix k data

theorem IoOutcome.moved_eq_nil_iff {o : IoOutcome} {data : List Byte} (hne : data ≠ []) :
    o.moved data = [] ↔ o = .short 0 ∨ o = .fail 0 := by
  cases o with
  | success => simpa [IoOutcome.moved] using hne
  | short k => simp [IoOutcome.moved, hne]
  | fail k => simp [IoOutcome.moved, hne]

/-- The part of a record that the writes have moved when the first ended with `o`. -/
structure LeftBehind (cfg : QueueConfig α) (elem : α) (o : IoOutcome) (p : List Byte) : Prop where
  refused : queueRecord cfg elem = none → p = []
  part : ∀ record, queueRecord cfg elem = some record →
    p <+: record ∧ (p = [] ↔ o = .short 0 ∨ o = .fail 0)

/-- The writes of a compact record move a part of it. -/
theorem queueTcpFileWriteCompactRecord_bytes {π : Type} [DecidableEq π] (fs : Flash π)
    (path : π) (pos : Nat) (m : ModuleMessage) :
    ∃ p, (queueTcpFileWriteCompactRecord fs ⟨path, .ab, pos⟩ m).2.2.contents path =
        fs.contents path ++ p ∧
      (compactEncode m = none → p = []) ∧
      ∀ record, compactEncode m = some record →
        p <+: record ∧ (p = [] ↔ fs.outcomes.headD .success = .short 0 ∨
          fs.outcomes.headD .success = .fail 0) := by
  unfold queueTcpFileWriteCompactRecord compactEncode
  cases hm : queueTcpPayloadLenFromMessage m with
  | none => exact ⟨[], (List.append_nil _).symm, fun _ => rfl, fun _ h => nomatch h⟩
  | some x =>
    obtain ⟨payloadLen, payload⟩ := x
    dsimp only
    by_cases hbad : payloadLen = 0 ∨ ¬ compactTypeAllowed (payload.getD 2 0) = true
    · rw [if_pos hbad]
      refine ⟨[], ?_, fun _ => rfl, fun _ h => nomatch h⟩
      rw [List.append_nil]
      split
      · rfl
      · split
        · rfl
        · simp_all
    · rw [if_neg hbad]
      rw [not_or, not_not] at hbad
      rw [if_neg hbad.1, if_neg (not_not_intro hbad.2)]
      obtain ⟨hbytes, hrest, hwritten, ⟨pos', hfp⟩, hok⟩ :=
        wmSdkFileWrite_ab fs path pos (leBytes 2 payloadLen ++ [payload.getD 2 0])
      have hne : leBytes 2 payloadLen ++ [payload.getD 2 0] ≠ [] := by simp
      have hmoved := IoOutcome.moved_prefix (fs.outcomes.headD .success)
        (leBytes 2 payloadLen ++ [payload.getD 2 0])
      have hsplit : leBytes 2 payloadLen ++ payload.getD 2 0 :: memRead payload payloadLen =
          (leBytes 2 payloadLen ++ [payload.getD 2 0]) ++ memRead payload payloadLen := by simp
      by_cases hhdr : ¬ (wmSdkFileWrite fs ⟨path, .ab, pos⟩
          (leBytes 2 payloadLen ++ [payload.getD 2 0])).ok = true ∨
          (wmSdkFileWrite fs ⟨path, .ab, pos⟩
            (leBytes 2 payloadLen ++ [payload.getD 2 0])).written ≠ 3
      · rw [if_pos hhdr]
        refine ⟨_, hbytes, fun h => (nomatch h), fun record h => ?_⟩
        cases h
        rw [hsplit]
        exact ⟨hmoved.trans (List.prefix_append _ _), IoOutcome.moved_eq_nil_iff hne⟩
      · rw [if_neg hhdr, hfp]
        rw [not_or, not_not, not_not, hwritten] at hhdr
        have hall : (fs.outcomes.headD .success).moved
            (leBytes 2 payloadLen ++ [payload.getD 2 0]) =
              leBytes 2 payloadLen ++ [payload.getD 2 0] :=
          hmoved.eq_of_length (by rw [hhdr.2]; simp)
        rw [hall] at hbytes
        generalize (wmSdkFileWrite fs ⟨path, .ab, pos⟩
          (leBytes 2 payloadLen ++ [payload.getD 2 0])).flash = fs' at *
        obtain ⟨hbody, -⟩ := wmSdkFileWrite_ab fs' path pos' (memRead payload payloadLen)
        rw [hbytes, List.append_assoc] at hbody
        refine ⟨(leBytes 2 payloadLen ++ [payload.getD 2 0]) ++
          (fs'.outcomes.headD .success).moved (memRead payload payloadLen), ?_,
          fun h => (nomatch h), fun record h => ?_⟩
        · split <;> exact hbody
        · cases h
          rw [hsplit]
          refine ⟨(List.prefix_append_right_inj _).mpr (IoOutcome.moved_prefix _ _), ?_⟩
          rw [← IoOutcome.moved_eq_nil_iff hne, hall]
          simp

/-- The writes of an element move a part of its record. -/
theorem queueFileWriteElem_bytes (hcfg : cfg.WellFormed) (fs : Flash FlashFile)
    (path : FlashFile) (pos : Nat) (elem : α) :
    ∃ p, (queueFileWriteElem cfg fs ⟨path, .ab, pos⟩ elem).2.2.contents path =
        fs.contents path ++ p ∧ LeftBehind cfg elem (fs.outcomes.headD .success) p := by
  unfold queueFileWriteElem
  by_cases htcp : queueIsTcpSendQ cfg = true
  · rw [if_pos htcp]
    obtain ⟨p, hbytes, hnone, hsome⟩ :=
      queueTcpFileWriteCompactRecord_bytes fs path pos (cfg.element.asMessage elem)
    refine ⟨p, hbytes, ⟨fun h => hnone ?_, fun record h => hsome record ?_⟩⟩
    · rwa [queueRecord, if_pos htcp] at h
    · rwa [queueRecord, if_pos htcp] at h
  · rw [if_neg htcp]
    have hrec : queueRecord cfg elem = some (cfg.element.image elem) := by
      rw [queueRecord, if_neg htcp]
    have hne : cfg.element.image elem ≠ [] := by
      intro hnil
      have hpos := queueRecord_length_pos hcfg hrec
      rw [hnil] at hpos
      exact Nat.lt_irrefl 0 hpos
    obtain ⟨hbytes, -⟩ := wmSdkFileWrite_ab fs path pos (cfg.element.image elem)
    refine ⟨(fs.outcomes.headD .success).moved (cfg.element.image elem), ?_, fun h => ?_,
      fun record h => ?_⟩
    · dsimp only
      split <;> exact hbytes
    · rw [hrec] at h
      cases h
    · rw [hrec] at h
      cases h
      exact ⟨IoOutcome.moved_prefix _ _, IoOutcome.moved_eq_nil_iff hne⟩

/-- After a failed append RAM and file are as making room left them, but for the
part of the record that was moved. -/
theorem queueFileAppend_failed (hcfg : cfg.WellFormed) {d : Device α} {elem : α} {n : Nat}
    (hn : queueFileRecordSize cfg elem = some n)
    (hfail : (queueFileAppend cfg d elem).1 ≠ .success) :
    (queueFileAppend cfg d elem).2.q = (queueFileMakeRoom cfg d n).q ∧
      ∃ p, (queueFileAppend cfg d elem).2.overflowBytes cfg =
          (queueFileMakeRoom cfg d n).overflowBytes cfg ++ p ∧
        (queueRecord cfg elem = none → p = []) ∧
        ∀ record, queueRecord cfg elem = some record →
          p <+: record ∧
            (p = [] ↔ NothingMoved (queueFileMakeRoom cfg d n).flash.outcomes) := by
  simp only [queueFileAppend, hcfg.hasFile, not_true_eq_false, if_false, hn] at hfail ⊢
  generalize queueFileMakeRoom cfg d n = e at *
  obtain ⟨hbytes, hrest, hopen⟩ := wmSdkFileOpen_ab_contents e.flash (overflowFile cfg)
  cases ho : wmSdkFileOpen e.flash (overflowFile cfg) .ab with
  | mk file fs =>
    rw [ho] at hbytes hrest hopen hfail
    cases file with
    | none =>
      refine ⟨rfl, [], ?_, fun _ => rfl, fun record _ => ⟨List.nil_prefix, ?_⟩⟩
      · rw [List.append_nil]
        exact hbytes
      · exact ⟨fun _ => Or.inl (hopen.mp rfl), fun _ => rfl⟩
    | some file =>
      obtain rfl : file = ⟨overflowFile cfg, .ab, 0⟩ :=
        wmSdkFileOpen_handle (congrArg Prod.fst ho)
      have hsucc : e.flash.outcomes.headD .success = .success := by
        by_contra hne
        cases hopen.mpr hne
      by_cases hw : (queueFileWriteElem cfg fs ⟨overflowFile cfg, .ab, 0⟩ elem).1 = .success
      · simp [hw] at hfail
      · obtain ⟨p, hp, hleft⟩ := queueFileWriteElem_bytes hcfg fs (overflowFile cfg) 0 elem
        dsimp only at hp hrest hbytes ⊢
        rw [if_pos hw]
        refine ⟨rfl, p, ?_, hleft.refused, fun record hrec => ?_⟩
        · rw [hbytes] at hp
          exact (Flash.tick_contents _ _).trans hp
        · obtain ⟨hpre, hnil⟩ := hleft.part record hrec
          rw [hrest] at hnil
          refine ⟨hpre, hnil.trans ⟨Or.inr, ?_⟩⟩
          rintro (hne | hmoved)
          · exact absurd hsucc hne
          · exact hmoved

end Failed

/-! ## Equal contents, equal answers -/

section Congr

variable {cfg : QueueConfig α} {fs gs : Flash FlashFile} {path : FlashFile}

/-- A header read sees the contents only. -/
theorem queueTcpReadHdr_congr (hf : fs.Sound) (hg : gs.Sound)
    (hc : fs.contents path = gs.contents path) (mode : FileMode) (pos offset : Nat) :
    ∃ r pos', queueTcpReadHdr fs ⟨path, mode, pos⟩ offset = (r, ⟨path, mode, pos'⟩, fs) ∧
      queueTcpReadHdr gs ⟨path, mode, pos⟩ offset = (r, ⟨path, mode, pos'⟩, gs) := by
  simp only [queueTcpReadHdr, wmSdkFileSeek_sound hf, wmSdkFileSeek_sound hg,
    wmSdkFileRead_sound hf, wmSdkFileRead_sound hg, hc]
  split <;> exact ⟨_, _, rfl, rfl⟩

/-- So does the read of a record. -/
theorem queueTcpFileReadCompactRecord_congr (hf : fs.Sound) (hg : gs.Sound)
    (hc : fs.contents path = gs.contents path) (mode : FileMode) (pos offset fileSize : Nat) :
    ∃ r, queueTcpFileReadCompactRecord fs ⟨path, mode, pos⟩ offset fileSize = (r, fs) ∧
      queueTcpFileReadCompactRecord gs ⟨path, mode, pos⟩ offset fileSize = (r, gs) := by
  obtain ⟨hdr, pos', hhf, hhg⟩ := queueTcpReadHdr_congr hf hg hc mode pos offset
  unfold queueTcpFileReadCompactRecord
  rw [hhf, hhg]
  by_cases hroom : offset + 3 > fileSize
  · rw [if_pos hroom, if_pos hroom]
    exact ⟨_, rfl, rfl⟩
  · rw [if_neg hroom, if_neg hroom]
    cases hdr with
    | none => exact ⟨_, rfl, rfl⟩
    | some header =>
      dsimp only
      rw [wmSdkFileRead_sound hf, wmSdkFileRead_sound hg]
      dsimp only
      rw [hc]
      repeat' first | exact ⟨_, rfl, rfl⟩ | split

/-- And skipping over records. -/
theorem peekRecordLoop_congr (hf : fs.Sound) (hg : gs.Sound)
    (hc : fs.contents path = gs.contents path) (fileSize which : Nat) (mode : FileMode)
    (pos offset : Nat) :
    ∃ r, peekRecordLoop fileSize which ⟨path, mode, pos⟩ fs offset = (r, fs) ∧
      peekRecordLoop fileSize which ⟨path, mode, pos⟩ gs offset = (r, gs) := by
  induction which generalizing pos offset with
  | zero =>
    obtain ⟨r, hrf, hrg⟩ :=
      queueTcpFileReadCompactRecord_congr hf hg hc mode pos offset fileSize
    rw [peekRecordLoop, peekRecordLoop, hrf, hrg]
    split <;> exact ⟨_, rfl, rfl⟩
  | succ which ih =>
    obtain ⟨hdr, pos', hhf, hhg⟩ := queueTcpReadHdr_congr hf hg hc mode pos offset
    rw [peekRecordLoop, peekRecordLoop, hhf, hhg]
    split
    · exact ⟨_, rfl, rfl⟩
    · cases hdr with
      | none => exact ⟨_, rfl, rfl⟩
      | some header =>
        dsimp only
        split
        · exact ⟨_, rfl, rfl⟩
        · exact ih pos' (offset + 3 + header.1)

/-- And the peek at an element stored as it is. -/
theorem peekRawElement_congr (cfg : QueueConfig α) (hf : fs.Sound) (hg : gs.Sound)
    (hc : fs.contents path = gs.contents path) (q : Queue α) (mode : FileMode)
    (pos which : Nat) :
    ∃ r, peekRawElement cfg q fs ⟨path, mode, pos⟩ which = (r, fs) ∧
      peekRawElement cfg q gs ⟨path, mode, pos⟩ which = (r, gs) := by
  simp only [peekRawElement, wmSdkFileSeek_sound hf, wmSdkFileSeek_sound hg,
    wmSdkFileRead_sound hf, wmSdkFileRead_sound hg, hc]
  repeat' first | exact ⟨_, rfl, rfl⟩ | split

variable {d e : Device α}

/-- A peek on an undisturbed device leaves it as it is. -/
theorem queueFilePeekElement_congr (hcfg : cfg.WellFormed) (h : StoreOk cfg d)
    (hsame : d.SameQueue cfg e) (which : Nat) :
    ∃ r, queueFilePeekElement cfg d which = (r, d) ∧ queueFilePeekElement cfg e which = (r, e) := by
  have hopen {x : Device α} (hx : StoreOk cfg x) (hoff : x.q.fileReadOffset < x.q.fileSize) :
      wmSdkFileOpen x.flash (overflowFile cfg) .rb =
        (some ⟨overflowFile cfg, .rb, 0⟩, x.flash) := by
    refine wmSdkFileOpen_rb_some hx.sound (files_of_overflowBytes rfl fun hnil => ?_)
    have hsize := hx.size_eq
    rw [hnil, List.length_nil] at hsize
    omega
  have he := hsame.storeOk h
  have hc : d.flash.contents (overflowFile cfg) = e.flash.contents (overflowFile cfg) :=
    hsame.bytes.symm
  simp only [queueFilePeekElement, hcfg.hasFile, not_true_eq_false, if_false]
  rw [hsame.queue]
  by_cases hoff : d.q.fileReadOffset ≥ d.q.fileSize
  · rw [if_pos hoff, if_pos hoff]
    exact ⟨_, rfl, rfl⟩
  · rw [if_neg hoff, if_neg hoff, hopen h (by omega), hopen he (by rw [hsame.queue]; omega)]
    obtain ⟨r, hrd, hre⟩ := peekRecordLoop_congr h.sound he.sound hc d.q.fileSize which .rb 0
      d.q.fileReadOffset
    obtain ⟨r', hrd', hre'⟩ := peekRawElement_congr cfg h.sound he.sound hc d.q .rb 0 which
    simp only [hrd, hre, hrd', hre']
    split <;>
      exact ⟨_, by rw [wmSdkFileClose_sound h.sound],
        by rw [wmSdkFileClose_sound he.sound, ← hsame.queue]⟩

/-- A read takes the same element and keeps equal contents equal. -/
theorem queueFileRead_congr (hcfg : cfg.WellFormed) (h : StoreOk cfg d)
    (hsame : d.SameQueue cfg e) :
    (queueFileRead cfg d).1 = (queueFileRead cfg e).1 ∧ StoreOk cfg (queueFileRead cfg d).2 ∧
      (queueFileRead cfg d).2.SameQueue cfg (queueFileRead cfg e).2 := by
  have he := hsame.storeOk h
  by_cases hoff : d.q.fileReadOffset < d.q.fileSize
  · rw [queueFileRead_sound h.sound hcfg h.size_eq hoff,
      queueFileRead_sound he.sound hcfg he.size_eq (by rw [hsame.queue]; exact hoff), hsame.queue,
      hsame.bytes]
    cases hn : (queueFraming cfg).next ((d.overflowBytes cfg).drop d.q.fileReadOffset) with
    | none => exact ⟨rfl, h, hsame⟩
    | some x =>
      obtain ⟨x, n⟩ := x
      dsimp only
      refine ⟨rfl, ?_, ?_⟩
      · split
        · exact h.drained
        · exact h.advanced (by omega)
      · have hdrained : (d.drained cfg).SameQueue cfg (e.drained cfg) :=
          ⟨by simp only [Device.drained, hsame.queue], he.sound.erase _,
            (overflowBytes_drained cfg e).trans (overflowBytes_drained cfg d).symm⟩
        have hadvanced : (d.advanced n).SameQueue cfg (e.advanced n) :=
          ⟨by simp only [Device.advanced, hsame.queue], hsame.sound, hsame.bytes⟩
        split
        · exact hdrained
        · exact hadvanced
  · rw [queueFileRead_of_empty hcfg.hasFile (by omega),
      queueFileRead_of_empty hcfg.hasFile (by rw [hsame.queue]; omega)]
    exact ⟨rfl, h, hsame⟩

/-- An append ends the same, and keeps equal contents equal. -/
theorem queueFileAppend_congr (hcfg : cfg.WellFormed) (h : StoreOk cfg d)
    (hsame : d.SameQueue cfg e) (elem : α) :
    (queueFileAppend cfg d elem).1 = (queueFileAppend cfg e elem).1 ∧
      StoreOk cfg (queueFileAppend cfg d elem).2 ∧
      (queueFileAppend cfg d elem).2.SameQueue cfg (queueFileAppend cfg e elem).2 := by
  have he := hsame.storeOk h
  have hdrained : (d.drained cfg).SameQueue cfg (e.drained cfg) :=
    ⟨by simp only [Device.drained, hsame.queue], he.sound.erase _,
      (overflowBytes_drained cfg e).trans (overflowBytes_drained cfg d).symm⟩
  have hreopened {x y : Device α} (hxy : x.SameQueue cfg y) :
      (x.reopened cfg).SameQueue cfg (y.reopened cfg) :=
    ⟨hxy.queue, hxy.sound.put _ _,
      by rw [overflowBytes_reopened, overflowBytes_reopened, hxy.bytes]⟩
  cases hrec : queueRecord cfg elem with
  | some record =>
    have hfits : e.Fits cfg record ↔ d.Fits cfg record := by
      simp only [Device.Fits, hsame.queue]
    have hrecorded : (d.recorded cfg record).SameQueue cfg (e.recorded cfg record) := by
      have hsound := (he.recorded (queueRecord_length_pos hcfg hrec)).sound
      have hbytes := overflowBytes_recorded cfg e record
      by_cases hfit : d.Fits cfg record
      · rw [if_pos (hfits.mpr hfit)] at hbytes
        refine ⟨?_, hsound, ?_⟩
        · rw [Device.recorded, Device.recorded, if_pos (hfits.mpr hfit), if_pos hfit,
            Device.appended, Device.appended, hsame.queue]
        · rw [hbytes, overflowBytes_recorded, if_pos hfit, hsame.bytes]
      · rw [if_neg (hfit ∘ hfits.mp)] at hbytes
        refine ⟨?_, hsound, ?_⟩
        · rw [Device.recorded, Device.recorded, if_neg (hfit ∘ hfits.mp), if_neg hfit,
            Device.restarted, Device.restarted, hsame.queue]
        · rw [hbytes, overflowBytes_recorded, if_neg hfit]
    rw [queueFileAppend_of_record h.sound hcfg.hasFile hcfg.file_le hrec,
      queueFileAppend_of_record he.sound hcfg.hasFile hcfg.file_le hrec]
    exact ⟨rfl, h.recorded (queueRecord_length_pos hcfg hrec), hrecorded⟩
  | none =>
    rw [queueFileAppend_of_no_record h.sound hcfg.hasFile hrec,
      queueFileAppend_of_no_record he.sound hcfg.hasFile hrec]
    refine ⟨rfl, ?_⟩
    cases queueFileRecordSize cfg elem with
    | none => exact ⟨h, hsame⟩
    | some n =>
      dsimp only
      by_cases hfit : d.q.fileSize + n ≤ cfg.maxFileSize
      · rw [queueFileMakeRoom_of_fits hcfg.file_le hfit,
          queueFileMakeRoom_of_fits hcfg.file_le (by rw [hsame.queue]; exact hfit)]
        exact ⟨h.reopened, hreopened hsame⟩
      · rw [queueFileMakeRoom_of_not_fits h.sound hfit,
          queueFileMakeRoom_of_not_fits he.sound (by rw [hsame.queue]; exact hfit)]
        exact ⟨h.drained.reopened, hreopened hdrained⟩

/-- Devices with the same queue answer every later call the same. -/
theorem overflow_run_congr (hcfg : cfg.WellFormed) (h : StoreOk cfg d)
    (hsame : d.SameQueue cfg e) (ops : List (OverflowOp α)) :
    ((overflowMachine cfg).run d ops).1 = ((overflowMachine cfg).run e ops).1 := by
  refine (overflowMachine cfg).run_congr (R := fun x y => StoreOk cfg x ∧ x.SameQueue cfg y)
    (fun x y op hxy => ?_) ops ⟨h, hsame⟩
  cases op with
  | append elem =>
    obtain ⟨hres, hstore, hnext⟩ := queueFileAppend_congr hcfg hxy.1 hxy.2 elem
    simp only [overflowMachine, hres]
    exact ⟨trivial, hstore, hnext⟩
  | read =>
    obtain ⟨hres, hstore, hnext⟩ := queueFileRead_congr hcfg hxy.1 hxy.2
    simp only [overflowMachine, hres]
    exact ⟨trivial, hstore, hnext⟩
  | peek which =>
    obtain ⟨r, hx, hy⟩ := queueFilePeekElement_congr hcfg hxy.1 hxy.2 which
    simp only [overflowMachine, hx, hy]
    exact ⟨trivial, hxy⟩

end Congr

/-! ## Unnoticed appends -/

section Unnoticed

variable {cfg : QueueConfig α} {d : Device α}

/-- Making room in an empty file changes nothing that can be read. -/
theorem queueFileMakeRoom_of_empty (h : StoreOk cfg d) (hempty : d.q.fileSize = 0)
    (outcomes : List IoOutcome) (n : Nat) :
    (queueFileMakeRoom cfg (d.under outcomes) n).q = d.q ∧
      (queueFileMakeRoom cfg (d.under outcomes) n).overflowBytes cfg = d.overflowBytes cfg := by
  have hnil : d.overflowBytes cfg = [] :=
    List.eq_nil_of_length_eq_zero (h.size_eq.trans hempty)
  have hoff : d.q.fileReadOffset = 0 := by
    have := h.read_lt
    omega
  have hzero : ({ d.q with fileSize := 0, fileReadOffset := 0 } : Queue α) = d.q := by
    nth_rewrite 1 [← hempty]
    rw [← hoff]
  have hreset {e : Device α} (he : e.q = d.q ∧ e.overflowBytes cfg = d.overflowBytes cfg) :
      (queueFileReset cfg e).q = d.q ∧
        (queueFileReset cfg e).overflowBytes cfg = d.overflowBytes cfg := by
    obtain ⟨hq, hbytes⟩ := he
    constructor
    · rw [queueFileReset, hq]
      exact hzero
    · rw [hnil] at hbytes ⊢
      rw [queueFileReset, Device.overflowBytes]
      unfold wmSdkFileDelete
      dsimp only
      split
      · exact Flash.contents_erase ..
      · exact (Flash.tick_contents _ _).trans hbytes
  have hstart : (d.under outcomes).q = d.q ∧
      (d.under outcomes).overflowBytes cfg = d.overflowBytes cfg := ⟨rfl, rfl⟩
  unfold queueFileMakeRoom
  dsimp only
  by_cases hwide : n > uint32Max - (d.under outcomes).q.fileSize
  · rw [if_pos hwide]
    split
    · exact hreset (hreset hstart)
    · exact hreset hstart
  · rw [if_neg hwide]
    split
    · exact hreset hstart
    · exact hstart

/-- Making room where there is none forgets the file. -/
theorem queueFileMakeRoom_forgets {n : Nat} (hn : ¬ d.q.fileSize + n ≤ cfg.maxFileSize) :
    (queueFileMakeRoom cfg d n).q.fileSize = 0 := by
  unfold queueFileMakeRoom
  dsimp only
  by_cases hwide : n > uint32Max - d.q.fileSize
  · rw [if_pos hwide]
    split <;> rfl
  · rw [if_neg hwide, if_pos (by omega)]
    rfl

/-- Where no unread record has to go, making room changes nothing that can be read. -/
theorem queueFileMakeRoom_keeps (hcfg : cfg.WellFormed) (h : StoreOk cfg d) {n : Nat}
    (hkeep : d.q.fileSize + n ≤ cfg.maxFileSize ∨ d.q.fileSize = 0) (outcomes : List IoOutcome) :
    (queueFileMakeRoom cfg (d.under outcomes) n).q = d.q ∧
      (queueFileMakeRoom cfg (d.under outcomes) n).overflowBytes cfg = d.overflowBytes cfg := by
  by_cases hfit : d.q.fileSize + n ≤ cfg.maxFileSize
  · rw [queueFileMakeRoom_of_fits (d := d.under outcomes) hcfg.file_le hfit]
    exact ⟨rfl, rfl⟩
  · exact queueFileMakeRoom_of_empty h (hkeep.resolve_left hfit) outcomes n

/-- After a harmless failure the queue is as it was. -/
theorem HarmlessAppend.sameQueue (hcfg : cfg.WellFormed) (h : StoreOk cfg d) {elem : α}
    {outcomes : List IoOutcome} (hharm : HarmlessAppend cfg d elem outcomes)
    (hfail : (queueFileAppend cfg (d.under outcomes) elem).1 ≠ .success) :
    d.SameQueue cfg (d.afterAppend cfg elem outcomes) := by
  cases hn : queueFileRecordSize cfg elem with
  | none =>
    have hsame : queueFileAppend cfg (d.under outcomes) elem = (.error, d.under outcomes) := by
      simp only [queueFileAppend, hcfg.hasFile, not_true_eq_false, if_false, hn]
    rw [Device.afterAppend, hsame]
    exact ⟨rfl, rfl, rfl⟩
  | some n =>
    obtain ⟨hkeep, hmoved⟩ := hharm n hn
    obtain ⟨hq, hbytes⟩ := queueFileMakeRoom_keeps hcfg h hkeep outcomes
    obtain ⟨hqa, p, hp, hrefused, hpart⟩ := queueFileAppend_failed hcfg hn hfail
    have hnil : p = [] := by
      cases hrec : queueRecord cfg elem with
      | none => exact hrefused hrec
      | some record =>
        refine ((hpart record hrec).2).mpr (hmoved.resolve_left ?_)
        rw [hrec]
        exact Option.some_ne_none _
    refine ⟨hqa.trans hq, rfl, ?_⟩
    change (queueFileAppend cfg (d.under outcomes) elem).2.overflowBytes cfg = _
    rw [hp, hnil, List.append_nil, hbytes]

/-! ### Telling a harmful failure apart -/

/-- A message whose record is as short as a record can be. -/
def tinyRow (type : Byte) : ModuleMessage :=
  { ModuleMessage.ofPayload .cmd .tcp [0x57, 0x45, type] with dataLen := 1 }

/-- What reading the record of `tinyRow` gives. -/
def tinyRead (type : Byte) : ModuleMessage :=
  .ofPayload (queueTcpTypeToSourceModule type) .tcp [0x57]

/-- Two types, so that one of them is not that of a given record. -/
def otherType (type : Byte) : Byte :=
  if type = gpsPacketType then tcpCmdRespPacketType else gpsPacketType

theorem otherType_cases (type : Byte) :
    otherType type = gpsPacketType ∨ otherType type = tcpCmdRespPacketType := by
  unfold otherType
  split
  · exact Or.inr rfl
  · exact Or.inl rfl

theorem otherType_ne (type : Byte) : otherType type ≠ type := by
  unfold otherType
  split
  · rename_i h
    rw [h]
    decide
  · rename_i h
    exact fun he => h he.symm

theorem compactEncode_tinyRow {type : Byte}
    (htype : type = gpsPacketType ∨ type = tcpCmdRespPacketType) :
    compactEncode (tinyRow type) = some [1, 0, type, 0x57] ∧
      compactNext [1, 0, type, 0x57] = some (tinyRead type, 4) := by
  obtain rfl | rfl := htype <;> decide +kernel

/-- Four bytes that read as `tinyRead` are its record. -/
theorem eq_of_compactNext_tinyRead {w0 w1 w2 w3 type : Byte} {n : Nat}
    (htype : type = gpsPacketType ∨ type = tcpCmdRespPacketType)
    (h : compactNext [w0, w1, w2, w3] = some (tinyRead type, n)) :
    [w0, w1, w2, w3] = [1, 0, type, 0x57] := by
  obtain ⟨payloadLen, t, hhead, hpos, -, hroom, ht, -, hm⟩ := compactNext_eq_some h
  simp only [List.length_cons, List.length_nil] at hroom
  obtain rfl : payloadLen = 1 := by omega
  have hwords : leNat [w0, w1] = 1 ∧ w2 = t := by
    rw [compactHeader, if_neg (by simp)] at hhead
    simpa using hhead
  obtain ⟨hlen, rfl⟩ := hwords
  have hsource : queueTcpTypeToSourceModule type = queueTcpTypeToSourceModule w2 :=
    congrArg ModuleMessage.sourceModule hm
  have hpayload := congrArg ModuleMessage.payload hm
  rw [tinyRead, ModuleMessage.payload_ofPayload _ _ (by decide),
    ModuleMessage.payload_ofPayload _ _ (by simp [moduleMessageInlineSize])] at hpayload
  have hw3 : w3 = 0x57 := by simpa using hpayload.symm
  have hw2 : w2 = type := by
    simp only [compactTypeAllowed, decide_eq_true_eq] at ht
    obtain rfl | rfl := htype <;> obtain rfl | rfl | rfl := ht <;>
      first | rfl | exact absurd hsource (by decide)
  have hw01 : w0 = 1 ∧ w1 = 0 := by
    simp only [leNat] at hlen
    have h0 := w0.toNat_lt
    have h1 : w1.toNat = 0 := by omega
    have h2 : w0.toNat = 1 := by omega
    exact ⟨UInt8.toNat_inj.mp h2, UInt8.toNat_inj.mp h1⟩
  rw [hw01.1, hw01.2, hw2, hw3]

/-- A part of a record in front of a record of another type does not read as the latter. -/
theorem compactNext_garbage_ne {p record : List Byte} {type : Byte} {n : Nat} (hne : p ≠ [])
    (hp : p <+: record) (htype : type = gpsPacketType ∨ type = tcpCmdRespPacketType)
    (hother : type ≠ record.getD 2 0) :
    compactNext ((p ++ [1, 0, type, 0x57]).take 4) ≠ some (tinyRead type, n) := by
  obtain ⟨suffix, rfl⟩ := hp
  intro h
  match p, hne with
  | [a], _ =>
    have hw := eq_of_compactNext_tinyRead htype h
    simp at hw
  | [a, b], _ =>
    have hw := eq_of_compactNext_tinyRead htype h
    obtain rfl | rfl := htype <;> simp [gpsPacketType, tcpCmdRespPacketType] at hw
  | [a, b, c], _ =>
    have hw := eq_of_compactNext_tinyRead htype h
    simp at hw
  | a :: b :: c :: e :: p, _ =>
    have hw := eq_of_compactNext_tinyRead htype h
    simp only [List.cons.injEq] at hw
    exact hother hw.2.2.1.symm

/-- Behind the unread records, a peek finds what the next append has written, or
what a failed one left in its place. -/
theorem peek_behind_part (hcfg : cfg.WellFormed) (htcp : queueIsTcpSendQ cfg = true)
    {rs : List α}
    (hrs : (queueFraming cfg).Framed ((d.overflowBytes cfg).drop d.q.fileReadOffset) rs)
    (h : StoreOk cfg d) {e : Device α} (hsound : e.flash.Sound) (hq : e.q = d.q) {p : List Byte}
    (hbytes : e.overflowBytes cfg = d.overflowBytes cfg ++ p) {type : Byte}
    (htype : type = gpsPacketType ∨ type = tcpCmdRespPacketType)
    (hroom : d.q.fileSize + 4 ≤ cfg.maxFileSize) :
    ∃ r, (queueFilePeekElement cfg
        (queueFileAppend cfg e (cfg.element.ofMessage (tinyRow type))).2 rs.length).1 =
      match compactNext ((p ++ [1, 0, type, 0x57]).take 4) with
      | none => .error r
      | some (m, _) => .ok (cfg.element.ofMessage m) := by
  have hrec : queueRecord cfg (cfg.element.ofMessage (tinyRow type)) = some [1, 0, type, 0x57] := by
    rw [queueRecord, if_pos htcp, hcfg.message htcp]
    exact (compactEncode_tinyRow htype).1
  have hfit : e.Fits cfg [1, 0, type, 0x57] := by
    rw [Device.Fits, hq]
    exact hroom
  have hread := h.read_le
  have hsize := h.size_eq
  rw [queueFileAppend_of_record hsound hcfg.hasFile hcfg.file_le hrec, if_pos hfit]
  -- the reader goes by `file_size`, four bytes behind the end it knew
  have hcontents : (e.appended cfg [1, 0, type, 0x57]).flash.contents (overflowFile cfg) =
      d.overflowBytes cfg ++ (p ++ [1, 0, type, 0x57]) := by
    rw [Device.appended, Flash.contents_put, hbytes, List.append_assoc]
  generalize hw : (p ++ [1, 0, type, 0x57]).take 4 = w
  have hwlen : w.length = 4 := by
    rw [← hw, List.length_take, List.length_append]
    simp only [List.length_cons, List.length_nil]
    omega
  have hwne : w ≠ [] := by
    rintro rfl
    cases hwlen
  have hdrop : ((e.appended cfg [1, 0, type, 0x57]).flash.contents (overflowFile cfg)).drop
      d.q.fileReadOffset = (d.overflowBytes cfg).drop d.q.fileReadOffset ++
        (w ++ (p ++ [1, 0, type, 0x57]).drop 4) := by
    rw [hcontents, List.drop_append_of_le_length (by omega), ← hw, List.take_append_drop]
  rw [queueFraming_of_tcp htcp] at hrs
  have hsound' : (e.appended cfg [1, 0, type, 0x57]).flash.Sound := hsound.put _ _
  obtain ⟨r, hr⟩ := peekRecordLoop_within hsound' .rb hrs hwne 0 d.q.fileReadOffset hdrop
  rw [List.length_drop, hwlen, hsize, show d.q.fileReadOffset +
    (d.q.fileSize - d.q.fileReadOffset + 4) = d.q.fileSize + 4 by omega] at hr
  have hqa : (e.appended cfg [1, 0, type, 0x57]).q =
      { d.q with fileSize := d.q.fileSize + 4 } := by
    rw [Device.appended, hq]
    rfl
  have hopen : wmSdkFileOpen (e.appended cfg [1, 0, type, 0x57]).flash (overflowFile cfg) .rb =
      (some ⟨overflowFile cfg, .rb, 0⟩, (e.appended cfg [1, 0, type, 0x57]).flash) :=
    wmSdkFileOpen_rb_some (hsound.put _ _) (Flash.put_files_self ..)
  refine ⟨r, ?_⟩
  simp only [queueFilePeekElement, hcfg.hasFile, htcp, not_true_eq_false, if_false, if_true, hqa]
  rw [if_neg (by omega), hopen]
  dsimp only
  rw [hr]
  cases compactNext w <;> rfl

/-- A failure that is not harmful to no later call is harmless. -/
theorem UnreadInv.harmless_of_unnoticed (hcfg : cfg.WellFormed) (htcp : queueIsTcpSendQ cfg = true)
    (hmin : 4 ≤ cfg.maxFileSize) (h : UnreadInv cfg d) {elem : α} {outcomes : List IoOutcome}
    (hfail : (queueFileAppend cfg (d.under outcomes) elem).1 ≠ .success)
    (hsame : ∀ ops, ((overflowMachine cfg).run (d.afterAppend cfg elem outcomes) ops).1 =
      ((overflowMachine cfg).run d ops).1) :
    HarmlessAppend cfg d elem outcomes := by
  intro n hn
  obtain ⟨hq, p, hp, -, hpart⟩ := queueFileAppend_failed hcfg hn hfail
  obtain ⟨rs, hrs⟩ := h.unread
  have hread := h.read_lt
  have hkeep : d.q.fileSize + n ≤ cfg.maxFileSize ∨ d.q.fileSize = 0 := by
    -- otherwise a read finds a record only if the append was never tried
    by_contra hlost
    rw [not_or] at hlost
    have hforgot := queueFileMakeRoom_forgets (d := d.under outcomes) hlost.1
    rw [← hq] at hforgot
    have hone := hsame [.read]
    simp only [overflowMachine, Machine.run, List.cons.injEq, and_true,
      OverflowReply.got.injEq] at hone
    rw [queueFileRead_of_empty (d := d.afterAppend cfg elem outcomes) hcfg.hasFile
      (by rw [show (d.afterAppend cfg elem outcomes).q.fileSize = 0 from hforgot]; omega),
      queueFileRead_sound h.sound hcfg h.size_eq (by omega)] at hone
    cases rs with
    | nil =>
      have hnil := hrs.eq_nil_iff.mp rfl
      rw [List.drop_eq_nil_iff, h.size_eq] at hnil
      omega
    | cons x rs =>
      obtain ⟨k, hnext, -⟩ := hrs.cons_inv
      rw [hnext] at hone
      cases hone
  refine ⟨hkeep, ?_⟩
  by_contra hmoved
  rw [not_or] at hmoved
  obtain ⟨record, hrec⟩ := Option.ne_none_iff_exists'.mp hmoved.1
  obtain ⟨hpre, hnil⟩ := hpart record hrec
  have hne : p ≠ [] := fun hp0 => hmoved.2 (hnil.mp hp0)
  obtain ⟨hqk, hbk⟩ := queueFileMakeRoom_keeps hcfg h.toStoreOk hkeep outcomes
  have hroom : d.q.fileSize + 4 ≤ cfg.maxFileSize := by
    have hsize := queueFileRecordSize_of_record hrec
    rw [hn, Option.some.injEq] at hsize
    rw [queueRecord, if_pos htcp] at hrec
    obtain ⟨payload, -, -, -, hpos, -⟩ := compactEncode_eq_some hrec
    have hlen := length_of_compactEncode hrec
    omega
  have htype := otherType_cases (record.getD 2 0)
  -- the next record is written behind the part, and read where the part begins
  obtain ⟨r, hr⟩ := peek_behind_part hcfg htcp hrs h.toStoreOk
    (e := d.afterAppend cfg elem outcomes) rfl (hq.trans hqk) (hp.trans (by rw [hbk])) htype hroom
  obtain ⟨r', hr'⟩ := peek_behind_part hcfg htcp hrs h.toStoreOk (p := []) h.sound rfl
    (List.append_nil _).symm htype hroom
  rw [List.nil_append, List.take_of_length_le (by simp), (compactEncode_tinyRow htype).2] at hr'
  have htwo := hsame [.append (cfg.element.ofMessage (tinyRow (otherType (record.getD 2 0)))),
    .peek rs.length]
  simp only [overflowMachine, Machine.run, List.cons.injEq, and_true,
    OverflowReply.got.injEq] at htwo
  rw [hr, hr'] at htwo
  cases hnext : compactNext ((p ++ [1, 0, otherType (record.getD 2 0), 0x57]).take 4) with
  | none =>
    rw [hnext] at htwo
    cases htwo.2
  | some x =>
    obtain ⟨m, k⟩ := x
    rw [hnext] at htwo
    have hm := congrArg cfg.element.asMessage (Except.ok.inj htwo.2)
    rw [hcfg.message htcp, hcfg.message htcp] at hm
    subst hm
    exact compactNext_garbage_ne hne hpre htype (otherType_ne _) hnext

/-- After an append that failed, later calls on an undisturbed flash read the same
records as if it had never been attempted: whenever it was harmless, and in the
TCP send queue only then. -/
theorem failed_append_unnoticed (hcfg : cfg.WellFormed) (h : UnreadInv cfg d) (elem : α)
    (outcomes : List IoOutcome)
    (hfail : (queueFileAppend cfg (d.under outcomes) elem).1 ≠ .success) :
    (HarmlessAppend cfg d elem outcomes →
      ∀ ops, ((overflowMachine cfg).run (d.afterAppend cfg elem outcomes) ops).1 =
        ((overflowMachine cfg).run d ops).1) ∧
      (queueIsTcpSendQ cfg = true → 4 ≤ cfg.maxFileSize →
        (∀ ops, ((overflowMachine cfg).run (d.afterAppend cfg elem outcomes) ops).1 =
          ((overflowMachine cfg).run d ops).1) → HarmlessAppend cfg d elem outcomes) :=
  ⟨fun hharm ops =>
    (overflow_run_congr hcfg h.toStoreOk (hharm.sameQueue hcfg h.toStoreOk hfail) ops).symm,
    fun htcp hmin hsame => h.harmless_of_unnoticed hcfg htcp hmin hfail hsame⟩

end Unnoticed

/-- The first write of a reply moves nothing. -/
theorem failed_append_unnoticed_reply :
    ((overflowMachine tcpSendQueueConfig).run
        (freshSendQueue.afterAppend tcpSendQueueConfig shortReply [.success, .fail 0])
        [.append shortReply, .read]).1 =
      ((overflowMachine tcpSendQueueConfig).run freshSendQueue [.append shortReply, .read]).1 :=
  (failed_append_unnoticed wellFormed_tcpSendQueueConfig queueInv_freshSendQueue.1.toUnreadInv
    shortReply [.success, .fail 0] (by decide +kernel)).1 (by decide +kernel) _

/-- The payload of a reply is cut off after four bytes. The next reply is appended
behind the part and cannot be read. -/
theorem failed_append_hides_next :
    (queueFileAppend tcpSendQueueConfig
        (freshSendQueue.under [.success, .success, .fail 4]) shortReply).1 = .error ∧
      ((overflowMachine tcpSendQueueConfig).run
        (freshSendQueue.afterAppend tcpSendQueueConfig shortReply [.success, .success, .fail 4])
        [.append (tinyRow gpsPacketType), .read]).1 = [.appended .success, .got (.error .error)] ∧
      ((overflowMachine tcpSendQueueConfig).run freshSendQueue
        [.append (tinyRow gpsPacketType), .read]).1 =
          [.appended .success, .got (.ok (tinyRead gpsPacketType))] := by
  decide +kernel

end WalnutGateway
