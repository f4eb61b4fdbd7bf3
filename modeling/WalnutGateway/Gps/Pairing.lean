import Mathlib.Data.Bool.AllAny
import WalnutGateway.Gps.Nmea

/-!
# Pairing of RMC and GGA

The sentences of one epoch have one time field. The slots pair what is there: where the second
sentence of an epoch came alone, it is paired with the first of the next epoch, and so are all
that follow.
-/

namespace WalnutGateway

/-- A sentence of a type as the receiver sends it. -/
structure NmeaSentence (type3 : String) where
  body : List Byte
  eol : List Byte
  isType : nmeaLineIs type3 body = true
  printable : ∀ c ∈ body, c ≠ 0 ∧ c ≠ carriageReturn ∧ c ≠ newline
  ends : ∀ c ∈ eol, c = carriageReturn ∨ c = newline

namespace NmeaSentence

variable {type3 : String}

/-- The text that the callback gets. -/
def text (s : NmeaSentence type3) : List Byte := s.body ++ s.eol

/-- What a slot keeps of it. -/
def line (s : NmeaSentence type3) : List Byte := s.body.take (gpsUrcSentenceMax - 1)

/-- The UTC time field. -/
def time (s : NmeaSentence type3) : List Byte :=
  ((s.body.drop 7).takeWhile (· != star)).takeWhile (· != comma)

end NmeaSentence

/-! ## Lines -/

/-- The characters in front of the time field. -/
theorem nmeaLineIs_iff {type3 : String} {line : List Byte} (h : (asciiBytes type3).length = 3) :
    nmeaLineIs type3 line = true ↔ ∃ talker rest,
      (talker = asciiBytes "$GN" ∨ talker = asciiBytes "$GP") ∧
        line = talker ++ asciiBytes type3 ++ comma :: rest := by
  simp only [nmeaLineIs, nmeaTalker, decide_eq_true_eq]
  constructor
  · rintro ⟨htalker, htype⟩
    refine ⟨line.take 3, line.drop 7, htalker, ?_⟩
    have hsplit : line.drop 3 = (line.drop 3).take 4 ++ (line.drop 3).drop 4 :=
      (List.take_append_drop 4 _).symm
    rw [htype, List.drop_drop] at hsplit
    calc line = line.take 3 ++ line.drop 3 := (List.take_append_drop 3 line).symm
      _ = line.take 3 ++ asciiBytes type3 ++ comma :: line.drop 7 := by
        rw [hsplit]
        simp
  · rintro ⟨talker, rest, htalker, rfl⟩
    have hthree : talker.length = 3 := by
      rcases htalker with rfl | rfl
      · rfl
      · rfl
    have htake : (talker ++ asciiBytes type3 ++ comma :: rest).take 3 = talker := by
      rw [List.append_assoc, ← hthree, List.take_left]
    have hdrop : (talker ++ asciiBytes type3 ++ comma :: rest).drop 3 =
        asciiBytes type3 ++ comma :: rest := by
      rw [List.append_assoc, ← hthree, List.drop_left]
    rw [htake, hdrop]
    refine ⟨htalker, ?_⟩
    rw [List.take_append, h, List.take_of_length_le (by omega)]
    rfl

/-- A line of one type is not of another. -/
theorem nmeaLineIs_unique {type3 other : String} {line : List Byte}
    (h : nmeaLineIs type3 line = true) (hne : asciiBytes type3 ≠ asciiBytes other) :
    nmeaLineIs other line = false := by
  simp only [nmeaLineIs, decide_eq_true_eq] at h
  simp only [nmeaLineIs, decide_eq_false_iff_not]
  rintro ⟨-, hother⟩
  rw [h.2] at hother
  exact hne (List.append_cancel_right hother)

/-- The type of a line is in its first characters. -/
theorem nmeaLineIs_take {type3 : String} {line : List Byte} (h : nmeaLineIs type3 line = true)
    {n : Nat} (hn : 7 ≤ n) : nmeaLineIs type3 (line.take n) = true := by
  have htake : (line.take n).take 3 = line.take 3 := by
    rw [List.take_take, Nat.min_eq_left (by omega)]
  have hdrop : ((line.take n).drop 3).take 4 = (line.drop 3).take 4 := by
    rw [List.drop_take, List.take_take, Nat.min_eq_left (by omega)]
  simp only [nmeaLineIs, nmeaTalker, htake, hdrop] at h ⊢
  exact h

theorem nmeaLineIs_ne_nil {type3 : String} {line : List Byte} (h : nmeaLineIs type3 line = true) :
    line ≠ [] := by
  rintro rfl
  simp only [nmeaLineIs, nmeaTalker, List.take_nil, decide_eq_true_eq] at h
  rcases h.1 with hnil | hnil
  · exact absurd hnil (by decide)
  · exact absurd hnil (by decide)

/-! ## The slots -/

namespace NmeaSentence

variable {type3 : String} (s : NmeaSentence type3)

theorem line_isType : nmeaLineIs type3 s.line = true := nmeaLineIs_take s.isType (by decide)

theorem line_printable : ∀ c ∈ s.line, c ≠ 0 ∧ c ≠ carriageReturn ∧ c ≠ newline :=
  fun c hc => s.printable c (List.mem_of_mem_take hc)

theorem line_length : s.line.length ≤ gpsUrcSentenceMax - 1 := List.length_take_le _ _

theorem cString_text : cString s.text = s.text := by
  apply cString_of_ne_zero
  intro c hc
  rcases List.mem_append.mp hc with hc | hc
  · exact (s.printable c hc).1
  · rcases s.ends c hc with rfl | rfl
    · decide
    · decide

theorem keep_text : NmeaSlots.keep s.text = s.line := by
  have hends : ∀ c ∈ (s.eol.take (gpsUrcSentenceMax - 1 - s.body.length)).reverse,
      (c == carriageReturn || c == newline) = true := by
    intro c hc
    have hmem := List.mem_of_mem_take (List.mem_reverse.mp hc)
    rcases s.ends c hmem with rfl | rfl
    · decide
    · decide
  have hkept : s.line.rdropWhile (fun c => c == carriageReturn || c == newline) = s.line := by
    apply List.rdropWhile_eq_self_iff.mpr
    intro hne
    obtain ⟨-, hcr, hnl⟩ := s.line_printable _ (List.getLast_mem hne)
    simp [hcr, hnl]
  rw [NmeaSlots.keep, cString_text, text, List.take_append, NmeaSlots.trimEol, List.rdropWhile,
    List.reverse_append, List.dropWhile_append_of_pos hends]
  exact hkept

end NmeaSentence

/-- More characters do not change the type. -/
theorem nmeaLineIs_append {type3 : String} {line : List Byte}
    (hlength : (asciiBytes type3).length = 3) (h : nmeaLineIs type3 line = true)
    (more : List Byte) : nmeaLineIs type3 (line ++ more) = true := by
  obtain ⟨talker, rest, htalker, rfl⟩ := (nmeaLineIs_iff hlength).mp h
  apply (nmeaLineIs_iff hlength).mpr
  exact ⟨talker, rest ++ more, htalker, by simp⟩

namespace NmeaSlots

variable (env : NmeaQueueEnv) (slots : NmeaSlots)

theorem sentenceCb_rmc (s : NmeaSentence "RMC") : slots.sentenceCb env s.text =
    if slots.gga ≠ [] then pushCombinedPair env ⟨s.line, slots.gga⟩
    else ([], ⟨s.line, slots.gga⟩) := by
  have hrmc : nmeaLineIs "RMC" s.text = true := nmeaLineIs_append rfl s.isType s.eol
  unfold sentenceCb
  rw [s.cString_text, if_pos hrmc, s.keep_text]

theorem sentenceCb_gga (s : NmeaSentence "GGA") : slots.sentenceCb env s.text =
    if slots.rmc ≠ [] then pushCombinedPair env ⟨slots.rmc, s.line⟩
    else ([], ⟨slots.rmc, s.line⟩) := by
  have hgga : nmeaLineIs "GGA" s.text = true := nmeaLineIs_append rfl s.isType s.eol
  have hrmc : ¬ nmeaLineIs "RMC" s.text = true := by
    rw [nmeaLineIs_unique hgga (by decide)]
    exact Bool.false_ne_true
  unfold sentenceCb
  rw [s.cString_text, if_neg hrmc, if_pos hgga, s.keep_text]

/-- A sentence that is neither is not taken. -/
theorem sentenceCb_other {sentence : List Byte}
    (hrmc : nmeaLineIs "RMC" (cString sentence) = false)
    (hgga : nmeaLineIs "GGA" (cString sentence) = false) :
    slots.sentenceCb env sentence = ([], slots) := by
  unfold sentenceCb
  rw [hrmc, hgga, if_neg Bool.false_ne_true, if_neg Bool.false_ne_true]

end NmeaSlots

/-- The record of two sentences. -/
def nmeaRecord (r : NmeaSentence "RMC") (g : NmeaSentence "GGA") : List Byte :=
  r.line ++ newline :: g.line

/-- A pair always fits in a record. -/
theorem NmeaSlots.pushCombinedPair_eq {env : NmeaQueueEnv} (hready : env.ready = true)
    (r : NmeaSentence "RMC") (g : NmeaSentence "GGA") :
    pushCombinedPair env ⟨r.line, g.line⟩ =
      (if env.queued then [nmeaRecord r g] else [], empty) := by
  have hr : r.line ≠ [] := nmeaLineIs_ne_nil r.line_isType
  have hg : g.line ≠ [] := nmeaLineIs_ne_nil g.line_isType
  have hfits : ¬ gpsUrcCombinedMax ≤ (r.line ++ newline :: g.line).length := by
    have hrl := r.line_length
    have hgl := g.line_length
    rw [List.length_append, List.length_cons]
    simp only [gpsUrcCombinedMax, gpsUrcSentenceMax] at hrl hgl ⊢
    omega
  unfold pushCombinedPair
  rw [if_neg (by simp [hr, hg]), if_neg (by simp [hready])]
  exact if_neg hfits

/-! ## The fields of a record -/

/-- The first field ends at the first comma. -/
theorem head_nmeaSplitFields (n : Nat) (payload : List Byte) :
    (nmeaSplitFields (n + 2) payload).head? = some (payload.takeWhile (· != comma)) := by
  unfold nmeaSplitFields
  split
  · rfl
  · rename_i hnone
    rw [List.takeWhile_eq_self_iff.mpr]
    · rfl
    · intro c hc
      simpa using fun heq : c = comma => hnone (heq ▸ hc)

theorem head_nmeaFields {type3 : String} {line : List Byte}
    (hlength : (asciiBytes type3).length = 3) (hplain : comma ∉ asciiBytes type3)
    (hstar : star ∉ asciiBytes type3) (h : nmeaLineIs type3 line = true) :
    (nmeaFields line).head? =
      some (((line.drop 7).takeWhile (· != star)).takeWhile (· != comma)) := by
  obtain ⟨talker, rest, htalker, rfl⟩ := (nmeaLineIs_iff hlength).mp h
  have hhead : ∀ c ∈ talker ++ asciiBytes type3, c ≠ comma ∧ c ≠ star := by
    intro c hc
    have hgn : ∀ c ∈ asciiBytes "$GN", c ≠ comma ∧ c ≠ star :=
      List.all_iff_forall_prop.mp (by decide)
    have hgp : ∀ c ∈ asciiBytes "$GP", c ≠ comma ∧ c ≠ star :=
      List.all_iff_forall_prop.mp (by decide)
    rcases List.mem_append.mp hc with hc | hc
    · rcases htalker with rfl | rfl
      · exact hgn c hc
      · exact hgp c hc
    · exact ⟨fun heq => hplain (heq ▸ hc), fun heq => hstar (heq ▸ hc)⟩
  have hseven : (talker ++ asciiBytes type3 ++ [comma]).length = 7 := by
    rcases htalker with rfl | rfl
    all_goals
      rw [List.length_append, List.length_append, hlength]
      rfl
  have hdrop : (talker ++ asciiBytes type3 ++ comma :: rest).drop 7 = rest := by
    have hsplit : talker ++ asciiBytes type3 ++ comma :: rest =
        (talker ++ asciiBytes type3 ++ [comma]) ++ rest := by simp
    rw [hsplit, ← hseven, List.drop_left]
  unfold nmeaFields nmeaStripChecksum
  rw [head_nmeaSplitFields, hdrop, List.takeWhile_append_of_pos,
    List.takeWhile_cons_of_pos (p := (· != star)) (by decide), List.dropWhile_append_of_pos,
    List.dropWhile_cons_of_neg (by simp)]
  · rfl
  · exact fun c hc => by simpa using (hhead c hc).1
  · exact fun c hc => by simpa using (hhead c hc).2

/-- The time field of a line is that of its sentence, cut where the slot ends. -/
theorem NmeaSentence.time_line {type3 : String} (s : NmeaSentence type3) :
    ((s.line.drop 7).takeWhile (· != star)).takeWhile (· != comma) =
      s.time.take (gpsUrcSentenceMax - 8) := by
  rw [NmeaSentence.line, List.drop_take, ← List.take_takeWhile, ← List.take_takeWhile]
  rfl

theorem nmeaRecordFields_nmeaRecord (r : NmeaSentence "RMC") (g : NmeaSentence "GGA") :
    nmeaRecordFields (nmeaRecord r g) = some (nmeaFields r.line, nmeaFields g.line) := by
  have hplain : ∀ line : List Byte, (∀ c ∈ line, c ≠ 0 ∧ c ≠ carriageReturn ∧ c ≠ newline) →
      line.takeWhile (· != newline) = line := by
    intro line hline
    apply List.takeWhile_eq_self_iff.mpr
    exact fun c hc => by simpa using (hline c hc).2.2
  have hmap : (nmeaRecord r g).map (fun c => if c = carriageReturn then newline else c) =
      nmeaRecord r g := by
    conv_rhs => rw [← List.map_id (nmeaRecord r g)]
    apply List.map_congr_left
    intro c hc
    apply if_neg
    rintro rfl
    rcases List.mem_append.mp hc with hc | hc
    · exact (r.line_printable _ hc).2.1 rfl
    · rcases List.mem_cons.mp hc with hc | hc
      · exact absurd hc (by decide)
      · exact (g.line_printable _ hc).2.1 rfl
  have hpos : ∀ c ∈ r.line, (c != newline) = true :=
    fun c hc => by simpa using (r.line_printable c hc).2.2
  have hlineA : (nmeaRecord r g).takeWhile (· != newline) = r.line := by
    rw [nmeaRecord, List.takeWhile_append_of_pos hpos, List.takeWhile_cons_of_neg (by simp),
      List.append_nil]
  have hlineB : ((nmeaRecord r g).dropWhile (· != newline)).dropWhile (· == newline) = g.line := by
    rw [nmeaRecord, List.dropWhile_append_of_pos hpos, List.dropWhile_cons_of_neg (by simp),
      List.dropWhile_cons_of_pos (by simp)]
    cases hline : g.line with
    | nil => rfl
    | cons c line =>
      have hfirst := (g.line_printable c (by rw [hline]; exact List.mem_cons_self)).2.2
      exact List.dropWhile_cons_of_neg (by simpa using hfirst)
  have hmem : newline ∈ nmeaRecord r g :=
    List.mem_append_right _ List.mem_cons_self
  have hr := r.line_isType
  have hg := g.line_isType
  have hr' := nmeaLineIs_unique hg (show asciiBytes "GGA" ≠ asciiBytes "RMC" by decide)
  have hg' := nmeaLineIs_unique hr (show asciiBytes "RMC" ≠ asciiBytes "GGA" by decide)
  unfold nmeaRecordFields
  simp only [hmap, hlineA, hlineB, hmem, hr, hg, hr']
  simp [hplain _ r.line_printable, hplain _ g.line_printable]

/-- The RMC and the GGA that the parser finds in the record have one time field. -/
def sameTime (record : List Byte) : Bool :=
  (nmeaRecordFields record).all fun fields => fields.1.head? == fields.2.head?

theorem sameTime_nmeaRecord {r : NmeaSentence "RMC"} {g : NmeaSentence "GGA"}
    (h : r.time = g.time) : sameTime (nmeaRecord r g) = true := by
  have hr := head_nmeaFields rfl (by decide) (by decide) r.line_isType
  have hg := head_nmeaFields rfl (by decide) (by decide) g.line_isType
  rw [r.time_line] at hr
  rw [g.time_line] at hg
  rw [sameTime, nmeaRecordFields_nmeaRecord, Option.all_some, hr, hg, h]
  exact beq_self_eq_true _

/-! ## Epochs -/

/-- An epoch: the sentences of it that come through, and what the callback finds of the queue
at each. -/
structure NmeaEpoch where
  time : List Byte
  rmc : Option (NmeaSentence "RMC")
  gga : Option (NmeaSentence "GGA")
  rmcEnv : NmeaQueueEnv
  ggaEnv : NmeaQueueEnv
  rmcTime : ∀ s ∈ rmc, s.time = time
  ggaTime : ∀ s ∈ gga, s.time = time

namespace NmeaEpoch

/-- The callback for the RMC. -/
def deliverRmc (e : NmeaEpoch) (slots : NmeaSlots) : List (List Byte) × NmeaSlots :=
  match e.rmc with
  | some s => slots.sentenceCb e.rmcEnv s.text
  | none => ([], slots)

/-- The callback for the GGA. -/
def deliverGga (e : NmeaEpoch) (slots : NmeaSlots) : List (List Byte) × NmeaSlots :=
  match e.gga with
  | some s => slots.sentenceCb e.ggaEnv s.text
  | none => ([], slots)

end NmeaEpoch

/-- The slots under a receiver that sends the RMC of an epoch first, or the GGA. -/
def nmeaMachine (rmcFirst : Bool) : Machine NmeaSlots NmeaEpoch (List (List Byte)) where
  step slots e :=
    let first := if rmcFirst then e.deliverRmc slots else e.deliverGga slots
    let second := if rmcFirst then e.deliverGga first.2 else e.deliverRmc first.2
    (first.1 ++ second.1, second.2)

namespace NmeaSlots

/-- The slot of the second sentence is empty. -/
def Aligned (rmcFirst : Bool) (slots : NmeaSlots) : Prop :=
  if rmcFirst then slots.gga = [] else slots.rmc = []

/-- Every record of the epoch that the parser accepts has one time. -/
def Paired (distance : ℚ → ℚ → ℚ → ℚ → ℚ) (rmcFirst : Bool) (slots : NmeaSlots)
    (e : NmeaEpoch) : Prop :=
  ∀ record ∈ ((nmeaMachine rmcFirst).step slots e).1,
    (gpsOpsParseGnrmcGnggaCombined distance record).isSome = true → sameTime record = true

/-- The second sentence of an epoch comes through only with the first, and finds the queue. -/
def Whole (rmcFirst : Bool) (_slots : NmeaSlots) (e : NmeaEpoch) : Prop :=
  if rmcFirst then e.gga.isSome = true → e.rmc.isSome = true ∧ e.ggaEnv.ready = true
  else e.rmc.isSome = true → e.gga.isSome = true ∧ e.rmcEnv.ready = true

variable {rmcFirst : Bool} {slots : NmeaSlots} {e : NmeaEpoch}

/-- The records of an epoch of aligned slots are of its own sentences. -/
theorem Aligned.step (h : slots.Aligned rmcFirst) (hwhole : slots.Whole rmcFirst e) :
    (∀ record ∈ ((nmeaMachine rmcFirst).step slots e).1,
      ∃ r ∈ e.rmc, ∃ g ∈ e.gga, record = nmeaRecord r g) ∧
    ((nmeaMachine rmcFirst).step slots e).2.Aligned rmcFirst := by
  unfold Aligned Whole at *
  unfold nmeaMachine NmeaEpoch.deliverRmc NmeaEpoch.deliverGga
  cases rmcFirst with
  | true =>
    simp only [if_true] at h hwhole ⊢
    cases hr : e.rmc with
    | none =>
      cases hg : e.gga with
      | none => exact ⟨(fun _ hmem => nomatch hmem), h⟩
      | some g =>
        rw [hr, hg] at hwhole
        exact absurd (hwhole rfl).1 Bool.false_ne_true
    | some r =>
      dsimp only
      rw [sentenceCb_rmc, if_neg (by simp [h])]
      cases hg : e.gga with
      | none => exact ⟨(fun _ hmem => nomatch hmem), h⟩
      | some g =>
        rw [hg] at hwhole
        dsimp only
        rw [sentenceCb_gga, if_pos (nmeaLineIs_ne_nil r.line_isType),
          pushCombinedPair_eq (hwhole rfl).2]
        refine ⟨?_, rfl⟩
        intro record hmem
        refine ⟨r, rfl, g, rfl, ?_⟩
        split at hmem
        · exact List.mem_singleton.mp hmem
        · exact nomatch hmem
  | false =>
    simp only [Bool.false_eq_true, if_false] at h hwhole ⊢
    cases hg : e.gga with
    | none =>
      cases hr : e.rmc with
      | none => exact ⟨(fun _ hmem => nomatch hmem), h⟩
      | some r =>
        rw [hr, hg] at hwhole
        exact absurd (hwhole rfl).1 Bool.false_ne_true
    | some g =>
      dsimp only
      rw [sentenceCb_gga, if_neg (by simp [h])]
      cases hr : e.rmc with
      | none => exact ⟨(fun _ hmem => nomatch hmem), h⟩
      | some r =>
        rw [hr] at hwhole
        dsimp only
        rw [sentenceCb_rmc, if_pos (nmeaLineIs_ne_nil g.line_isType),
          pushCombinedPair_eq (hwhole rfl).2]
        refine ⟨?_, rfl⟩
        intro record hmem
        refine ⟨r, rfl, g, rfl, ?_⟩
        split at hmem
        · exact List.mem_singleton.mp hmem
        · exact nomatch hmem

theorem Aligned.paired (h : slots.Aligned rmcFirst) (hwhole : slots.Whole rmcFirst e)
    (distance : ℚ → ℚ → ℚ → ℚ → ℚ) : slots.Paired distance rmcFirst e := by
  intro record hmem _
  obtain ⟨r, hr, g, hg, rfl⟩ := (h.step hwhole).1 record hmem
  exact sameTime_nmeaRecord ((e.rmcTime r hr).trans (e.ggaTime g hg).symm)

theorem aligned_empty (rmcFirst : Bool) : empty.Aligned rmcFirst := by
  cases rmcFirst with
  | true => rfl
  | false => rfl

/-- Where no epoch loses its first sentence alone, every record has one time. -/
theorem nmea_paired {distance : ℚ → ℚ → ℚ → ℚ → ℚ} {es : List NmeaEpoch}
    (h : (nmeaMachine rmcFirst).Along (Whole rmcFirst) empty es) :
    (nmeaMachine rmcFirst).Along (Paired distance rmcFirst) empty es := by
  apply Machine.Along.mono_of_invariant (I := Aligned rmcFirst) _ _ (aligned_empty rmcFirst) h
  · exact fun slots e haligned hwhole => (haligned.step hwhole).2
  · exact fun slots e haligned hwhole => haligned.paired hwhole distance

/-! ## One epoch off -/

/-- The second sentence of `previous` waits alone. -/
def Lagging (rmcFirst : Bool) (previous : NmeaEpoch) (slots : NmeaSlots) : Prop :=
  if rmcFirst then ∃ g ∈ previous.gga, slots = ⟨[], g.line⟩
  else ∃ r ∈ previous.rmc, slots = ⟨r.line, []⟩

/-- Both sentences come through, and the first finds the queue. -/
structure Complete (rmcFirst : Bool) (e : NmeaEpoch) : Prop where
  rmc : e.rmc.isSome = true
  gga : e.gga.isSome = true
  ready : (if rmcFirst then e.rmcEnv else e.ggaEnv).ready = true

/-- A complete epoch after a sentence that waits alone: its first sentence is joined to that one,
and its second waits alone in turn. -/
theorem Lagging.step {previous : NmeaEpoch} (h : Lagging rmcFirst previous slots)
    (he : Complete rmcFirst e) :
    (∀ record ∈ ((nmeaMachine rmcFirst).step slots e).1, ∃ r g, record = nmeaRecord r g ∧
      if rmcFirst then r ∈ e.rmc ∧ g ∈ previous.gga else r ∈ previous.rmc ∧ g ∈ e.gga) ∧
    Lagging rmcFirst e ((nmeaMachine rmcFirst).step slots e).2 := by
  obtain ⟨hrmc, hgga, hready⟩ := he
  obtain ⟨r, hr⟩ := Option.isSome_iff_exists.mp hrmc
  obtain ⟨g, hg⟩ := Option.isSome_iff_exists.mp hgga
  have hnil : ¬ ([] : List Byte) ≠ [] := fun hne => hne rfl
  unfold Lagging at *
  unfold nmeaMachine NmeaEpoch.deliverRmc NmeaEpoch.deliverGga
  cases rmcFirst with
  | true =>
    simp only [if_true] at h hready ⊢
    obtain ⟨g', hg', rfl⟩ := h
    simp only [hr, hg]
    rw [sentenceCb_rmc, if_pos (nmeaLineIs_ne_nil g'.line_isType), pushCombinedPair_eq hready,
      sentenceCb_gga, empty, if_neg hnil, List.append_nil]
    refine ⟨?_, g, rfl, rfl⟩
    intro record hmem
    split at hmem
    · exact ⟨r, g', List.mem_singleton.mp hmem, rfl, hg'⟩
    · exact nomatch hmem
  | false =>
    simp only [Bool.false_eq_true, if_false] at h hready ⊢
    obtain ⟨r', hr', rfl⟩ := h
    simp only [hr, hg]
    rw [sentenceCb_gga, if_pos (nmeaLineIs_ne_nil r'.line_isType), pushCombinedPair_eq hready,
      sentenceCb_rmc, empty, if_neg hnil, List.append_nil]
    refine ⟨?_, r, rfl, rfl⟩
    intro record hmem
    split at hmem
    · exact ⟨r', g, List.mem_singleton.mp hmem, hr', rfl⟩
    · exact nomatch hmem

/-- However many complete epochs follow, the slots do not come right. -/
theorem Lagging.run {previous : NmeaEpoch} (h : Lagging rmcFirst previous slots)
    (es : List NmeaEpoch) (hes : ∀ e ∈ es, Complete rmcFirst e) :
    Lagging rmcFirst (es.getLastD previous) ((nmeaMachine rmcFirst).run slots es).2 := by
  induction es generalizing previous slots with
  | nil => exact h
  | cons e es ih =>
    rw [List.getLastD_cons]
    exact ih (h.step (hes e List.mem_cons_self)).2
      fun e' he' => hes e' (List.mem_cons_of_mem _ he')

/-! ## A lost RMC -/

/-- A position at noon, and one second later. -/
def noonRmc : NmeaSentence "RMC" where
  body := asciiBytes "$GNRMC,120000.00,A,1234.56,N,07712.34,E,0.0,0.0,010125,,,A*7C"
  eol := [carriageReturn, newline]
  isType := by decide
  printable := List.all_iff_forall_prop.mp (by decide)
  ends := List.all_iff_forall_prop.mp (by decide)

@[inherit_doc noonRmc]
def noonGga : NmeaSentence "GGA" where
  body := asciiBytes "$GNGGA,120000.00,1234.56,N,07712.34,E,1,08,1.2,210.5,M,,M,,*55"
  eol := [carriageReturn, newline]
  isType := by decide
  printable := List.all_iff_forall_prop.mp (by decide)
  ends := List.all_iff_forall_prop.mp (by decide)

@[inherit_doc noonRmc]
def nextRmc : NmeaSentence "RMC" where
  body := asciiBytes "$GNRMC,120001.00,A,1234.56,N,07712.34,E,0.0,0.0,010125,,,A*7D"
  eol := [carriageReturn, newline]
  isType := by decide
  printable := List.all_iff_forall_prop.mp (by decide)
  ends := List.all_iff_forall_prop.mp (by decide)

/-- The queue takes every record. -/
def openQueue : NmeaQueueEnv := ⟨true, true⟩

/-- The epoch at noon. -/
def noonEpoch : NmeaEpoch where
  time := noonGga.time
  rmc := some noonRmc
  gga := some noonGga
  rmcEnv := openQueue
  ggaEnv := openQueue
  rmcTime := fun s hs => by cases hs; decide
  ggaTime := fun s hs => by cases hs; rfl

/-- The same without its RMC. -/
def lostEpoch : NmeaEpoch :=
  { noonEpoch with
    rmc := none
    rmcTime := fun _ hs => nomatch hs }

/-- The epoch after, as far as its RMC. -/
def nextEpoch : NmeaEpoch where
  time := nextRmc.time
  rmc := some nextRmc
  gga := none
  rmcEnv := openQueue
  ggaEnv := openQueue
  rmcTime := fun s hs => by cases hs; rfl
  ggaTime := fun _ hs => nomatch hs

instance (distance : ℚ → ℚ → ℚ → ℚ → ℚ) (rmcFirst : Bool) (slots : NmeaSlots) (e : NmeaEpoch) :
    Decidable (slots.Paired distance rmcFirst e) :=
  inferInstanceAs (Decidable (∀ record ∈ _, _ → _))

/-- The rule at two epochs, of which the first is complete. -/
theorem nmea_paired_noon :
    (nmeaMachine true).Along (Paired (fun _ _ _ _ => 0) true) empty
      [noonEpoch, nextEpoch] := by
  apply nmea_paired
  refine ⟨?_, ?_, True.intro⟩
  · exact fun _ => ⟨rfl, rfl⟩
  · exact fun hgga => nomatch hgga

/-- One RMC is lost: the next RMC is joined to the GGA of the epoch before. -/
theorem lost_rmc_mispaired : ¬ ∀ distance rmcFirst es,
    (nmeaMachine rmcFirst).Along (Paired distance rmcFirst) empty es := by
  intro h
  have hrun := h (fun _ _ _ _ => 0) true [lostEpoch, nextEpoch]
  revert hrun
  decide +kernel

end NmeaSlots

end WalnutGateway
