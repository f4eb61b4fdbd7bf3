import WalnutGateway.Common.Search

/-!
# The versions in a download address

`ota_st_check_version_match` takes an update for unnecessary if the address of the download has
the current versions in it: both of them behind the artifact's key, with their leading zeros
removed, or the firmware version alone, as it is. Where a version ends in the address is not
looked at.
-/

namespace WalnutGateway

/-! ## The check -/

/-- `OTA_ARTIFACT_KEY_ST`. -/
def otaArtifactKeySt : List Byte := asciiBytes "cgst"

/-- The loop of `ota_version_remove_leading_zeros`, which keeps the last character. -/
def removeLeadingZeros : List Byte → List Byte
  | b :: c :: cs => if b = 0x30 then removeLeadingZeros (c :: cs) else b :: c :: cs
  | v => v

/-- `ota_version_remove_leading_zeros`. -/
def otaVersionRemoveLeadingZeros (version : List Byte) (outputSize : Nat) : List Byte :=
  (removeLeadingZeros version).take (outputSize - 1)

/-- `ota_version_format_url_token`. -/
def otaVersionFormatUrlToken (version : List Byte) (outputSize : Nat) : List Byte :=
  if 0x2E ∈ version then version.take (outputSize - 1)
  else otaVersionRemoveLeadingZeros version outputSize

/-- `hw_token` and `fw_token`. -/
def hwToken (hardwareVersion : List Byte) : List Byte := otaVersionFormatUrlToken hardwareVersion 16

@[inherit_doc hwToken]
def fwToken (firmwareVersion : List Byte) : List Byte := otaVersionFormatUrlToken firmwareVersion 32

/-- An artifact's name with its versions. -/
def artifactName (hw fw : List Byte) : List Byte :=
  otaArtifactKeySt ++ (asciiBytes "_hwv" ++ (hw ++ (asciiBytes "_fwv" ++ fw)))

/-- `version_pattern`. -/
def versionPattern (firmwareVersion : List Byte) : List Byte := asciiBytes "_fwv" ++ firmwareVersion

/-- `ota_st_check_version_match`; `none` is a `NULL` pointer. -/
def otaStCheckVersionMatch (downloadUrl hardwareVersion firmwareVersion : Option (List Byte)) :
    Int :=
  match downloadUrl with
  | none => -1
  | some url =>
    if strstr otaArtifactKeySt url = none then 1
    else
      match hardwareVersion, firmwareVersion with
      | some hw, some fw =>
        if fw = [] then 1
        else
          let comboPattern := artifactName (hwToken hw) (fwToken fw)
          if 96 ≤ comboPattern.length then -1
          else if strstr comboPattern url ≠ none then 0
          else if 64 ≤ (versionPattern fw).length then -1
          else if strstr (versionPattern fw) url ≠ none then 0
          else 1
      | _, _ => 1

/-! ## Versions and addresses -/

/-- A digit or a dot. -/
def isVersionChar (c : Byte) : Bool := isdigit c ∨ c = 0x2E

/-- A version: digits and dots, the last of them a digit. -/
structure IsVersion (v : List Byte) : Prop where
  chars : ∀ c ∈ v, isVersionChar c = true
  nonempty : v ≠ []
  last : v.getLast? ≠ some 0x2E

/-- Versions that are the same up to leading zeros. -/
def SameVersion (u v : List Byte) : Prop := u.dropWhile (· = 0x30) = v.dropWhile (· = 0x30)

/-- What may follow the artifact's name: nothing, a character that no version has, or a dot and
such a character. -/
def NameEnds (rest : List Byte) : Prop :=
  ∀ c ∈ rest.head?, isVersionChar c = true → c = 0x2E ∧ ∃ d ∈ rest[1]?, isVersionChar d = false

/-- The pattern of both versions or that of the firmware version stands in a part of the
address. -/
def PatternIn (hw fw part : List Byte) : Prop :=
  artifactName (hwToken hw) (fwToken fw) <:+: part ∨
    (fw.length < 60 ∧ versionPattern fw <:+: part)

/-- The artifact's name says the current versions in one of the two ways: its versions begin like
the tokens, or its firmware version begins like the current one as it is. -/
def SaysCurrent (hw fw h f rest : List Byte) : Prop :=
  (h = hwToken hw ∧ fwToken fw <+: f ++ rest) ∨ (fw.length < 60 ∧ fw <+: f)

theorem mem_removeLeadingZeros {c : Byte} {v : List Byte} (h : c ∈ removeLeadingZeros v) :
    c ∈ v := by
  induction v using removeLeadingZeros.induct with
  | case1 c cs ih =>
    rw [removeLeadingZeros, if_pos rfl] at h
    exact List.mem_cons_of_mem _ (ih h)
  | case2 b c cs hb =>
    rwa [removeLeadingZeros, if_neg hb] at h
  | case3 v hv =>
    rwa [removeLeadingZeros] at h
    exact hv

theorem mem_otaVersionFormatUrlToken {c : Byte} {v : List Byte} {n : Nat}
    (h : c ∈ otaVersionFormatUrlToken v n) : c ∈ v := by
  rw [otaVersionFormatUrlToken] at h
  split_ifs at h
  · exact List.mem_of_mem_take h
  · exact mem_removeLeadingZeros (List.mem_of_mem_take h)

theorem length_otaVersionFormatUrlToken_le (v : List Byte) (n : Nat) :
    (otaVersionFormatUrlToken v n).length ≤ n - 1 := by
  rw [otaVersionFormatUrlToken]
  split_ifs
  · exact List.length_take_le _ _
  · exact List.length_take_le _ _

/-- A character that is in no version. -/
theorem IsVersion.not_mem {v : List Byte} (h : IsVersion v) {c : Byte}
    (hc : isVersionChar c = false) : c ∉ v := by
  intro hmem
  rw [h.chars c hmem] at hc
  cases hc

/-- Behind a version, an address goes on with what is not one. -/
theorem prefix_append_rest_iff {fw f rest : List Byte} (hfw : IsVersion fw)
    (hrest : NameEnds rest) : fw <+: f ++ rest ↔ fw <+: f := by
  constructor
  · intro h
    rcases List.prefix_or_prefix_of_prefix h (List.prefix_append f rest) with hle | ⟨w, rfl⟩
    · exact hle
    · -- what the version has behind `f` can only be the dot of an extension
      have hw := (List.prefix_append_right_inj f).mp h
      cases w with
      | nil => simp
      | cons c w =>
        obtain ⟨t, rfl⟩ := hw
        have hc := hfw.chars c (by simp)
        obtain ⟨rfl, d, hd, hnot⟩ := hrest c rfl hc
        cases w with
        | nil => exact absurd (by simp) hfw.last
        | cons e w =>
          obtain rfl : e = d := by simpa using hd
          rw [hfw.chars e (by simp)] at hnot
          cases hnot
  · exact fun h => h.trans (List.prefix_append f rest)

/-! ## Where the patterns stand -/

theorem artifactName_eq (hw fw : List Byte) : artifactName hw fw =
    0x63 :: (asciiBytes "gst_hwv" ++ (hw ++ 0x5F :: (asciiBytes "fwv" ++ fw))) := rfl

theorem versionPattern_eq (fw : List Byte) :
    versionPattern fw = 0x5F :: (asciiBytes "fwv" ++ fw) := rfl

section Match

variable {hw fw h f before rest : List Byte}

/-- The pattern of both versions stands before the artifact's name, at it, or behind it. -/
theorem artifactName_infix_iff (before rest : List Byte)
    (hhw : ∀ c, isVersionChar c = false → c ∉ hw) (hfw : ∀ c, isVersionChar c = false → c ∉ fw)
    (hh : IsVersion h) (hf : IsVersion f) :
    artifactName hw fw <:+: before ++ (artifactName h f ++ rest) ↔
      artifactName hw fw <:+: before ∨ (hw = h ∧ fw <+: f ++ rest) ∨
        artifactName hw fw <:+: rest := by
  have hc : (0x63 : Byte) ∉ asciiBytes "gst_hwv" ++ (hw ++ 0x5F :: (asciiBytes "fwv" ++ fw)) := by
    have hgst : (0x63 : Byte) ∉ asciiBytes "gst_hwv" := by decide +kernel
    have hfwv : (0x63 : Byte) ∉ 0x5F :: asciiBytes "fwv" := by decide +kernel
    simp only [List.mem_append, List.mem_cons, not_or] at hfwv ⊢
    exact ⟨hgst, hhw _ rfl, hfwv.1, hfwv.2, hfw _ rfl⟩
  have hc' : (0x63 : Byte) ∉ asciiBytes "gst_hwv" ++ (h ++ 0x5F :: (asciiBytes "fwv" ++ f)) := by
    have hgst : (0x63 : Byte) ∉ asciiBytes "gst_hwv" := by decide +kernel
    have hfwv : (0x63 : Byte) ∉ 0x5F :: asciiBytes "fwv" := by decide +kernel
    simp only [List.mem_append, List.mem_cons, not_or] at hfwv ⊢
    exact ⟨hgst, hh.not_mem rfl, hfwv.1, hfwv.2, hf.not_mem rfl⟩
  have hname : artifactName h f ++ rest = 0x63 ::
      (asciiBytes "gst_hwv" ++ (h ++ 0x5F :: (asciiBytes "fwv" ++ f)) ++ rest) := by
    rw [artifactName_eq, List.cons_append]
  have hplace : 0x63 :: (asciiBytes "gst_hwv" ++ (hw ++ 0x5F :: (asciiBytes "fwv" ++ fw))) <+:
      0x63 :: (asciiBytes "gst_hwv" ++ (h ++ 0x5F :: (asciiBytes "fwv" ++ f)) ++ rest) ↔
      hw = h ∧ fw <+: f ++ rest := by
    rw [List.cons_prefix_cons, List.append_assoc, List.prefix_append_right_inj, List.append_assoc,
      List.cons_append, prefix_append_cons_iff (hhw _ rfl) (hh.not_mem rfl), List.append_assoc,
      List.prefix_append_right_inj]
    exact and_iff_right rfl
  rw [hname, artifactName_eq, infix_append_cons hc, hplace, infix_append_of_not_mem hc']

/-- The pattern of the firmware version stands before the artifact's name, where its own firmware
version begins, or behind it. -/
theorem versionPattern_infix_iff (before : List Byte) (hfw : IsVersion fw) (hh : IsVersion h)
    (hf : IsVersion f) (hrest : NameEnds rest) :
    versionPattern fw <:+: before ++ (artifactName h f ++ rest) ↔
      versionPattern fw <:+: before ∨ fw <+: f ∨ versionPattern fw <:+: rest := by
  have hletters : (0x63 : Byte) ∉ 0x5F :: asciiBytes "fwv" ∧ (0x5F : Byte) ∉ asciiBytes "fwv" ∧
      (0x5F : Byte) ∉ asciiBytes "gst" ∧ (0x5F : Byte) ∉ asciiBytes "hwv" := by decide +kernel
  obtain ⟨hkey, hfwv, hgst, hhwv⟩ := hletters
  have hpattern : (0x63 : Byte) ∉ 0x5F :: (asciiBytes "fwv" ++ fw) := by
    rw [← List.cons_append, List.mem_append, not_or]
    exact ⟨hkey, hfw.not_mem rfl⟩
  have htail : (0x5F : Byte) ∉ asciiBytes "fwv" ++ fw := by
    rw [List.mem_append, not_or]
    exact ⟨hfwv, hfw.not_mem rfl⟩
  have hurl : before ++ (artifactName h f ++ rest) = before ++ 0x63 ::
      ((asciiBytes "gst" ++ 0x5F :: (asciiBytes "hwv" ++ h)) ++
        0x5F :: ((asciiBytes "fwv" ++ f) ++ rest)) := by
    rw [List.append_assoc (asciiBytes "fwv"), artifactName, List.append_assoc, List.append_assoc,
      List.append_assoc, List.append_assoc]
    rfl
  have hhere : 0x5F :: (asciiBytes "fwv" ++ fw) <+: 0x5F :: ((asciiBytes "fwv" ++ f) ++ rest) ↔
      fw <+: f := by
    rw [List.cons_prefix_cons, List.append_assoc, List.prefix_append_right_inj,
      prefix_append_rest_iff hfw hrest]
    exact and_iff_right rfl
  have hbehind : 0x5F :: (asciiBytes "fwv" ++ fw) <:+: (asciiBytes "fwv" ++ f) ++ rest ↔
      0x5F :: (asciiBytes "fwv" ++ fw) <:+: rest := by
    refine infix_append_of_not_mem ?_
    rw [List.mem_append, not_or]
    exact ⟨hfwv, hf.not_mem rfl⟩
  have hbetween : ¬ 0x5F :: (asciiBytes "fwv" ++ fw) <:+:
      asciiBytes "gst" ++ 0x5F :: (asciiBytes "hwv" ++ h) := by
    rw [infix_append_cons htail]
    rintro (hin | hat | hin)
    · exact hgst (hin.subset List.mem_cons_self)
    · -- `f` stands where the hardware version has `h`
      have hletter := (List.cons_prefix_cons.mp (List.cons_prefix_cons.mp hat).2).1
      exact absurd hletter (by decide)
    · have hmem := hin.subset List.mem_cons_self
      rw [List.mem_append] at hmem
      exact hmem.elim hhwv (hh.not_mem rfl)
  rw [hurl, versionPattern_eq, infix_append_cons_of_not_mem hpattern, infix_append_cons htail,
    hhere, hbehind, or_iff_right hbetween]

/-- Two things that are looked for in three parts. -/
private theorem or_parts_iff {a b c s a' b' c' : Prop} :
    (b ∨ s ∧ b') ∨ (a ∨ s ∧ a') ∨ (c ∨ s ∧ c') ↔ (a ∨ b ∨ c) ∨ s ∧ (a' ∨ b' ∨ c') := by
  tauto

/-- The check says that no update is required exactly if the artifact's name says the current
versions, or a pattern stands elsewhere in the address. -/
theorem otaStCheckVersionMatch_eq_zero_iff (hhw : IsVersion hw) (hfw : IsVersion fw)
    (hh : IsVersion h) (hf : IsVersion f) (hrest : NameEnds rest) :
    otaStCheckVersionMatch (some (before ++ (artifactName h f ++ rest))) (some hw) (some fw) = 0 ↔
      SaysCurrent hw fw h f rest ∨ PatternIn hw fw before ∨ PatternIn hw fw rest := by
  have hkey : strstr otaArtifactKeySt (before ++ (artifactName h f ++ rest)) ≠ none := by
    intro hnone
    refine strstr_eq_none_iff.mp hnone ⟨before, ?_⟩
    exact ⟨asciiBytes "_hwv" ++ (h ++ (asciiBytes "_fwv" ++ f)) ++ rest, by simp [artifactName]⟩
  have hshort : ¬ 96 ≤ (artifactName (hwToken hw) (fwToken fw)).length := by
    have hhwlen := length_otaVersionFormatUrlToken_le hw 16
    have hfwlen := length_otaVersionFormatUrlToken_le fw 32
    have hletters : otaArtifactKeySt.length = 4 ∧ (asciiBytes "_hwv").length = 4 ∧
        (asciiBytes "_fwv").length = 4 := by decide +kernel
    simp only [artifactName, hwToken, fwToken, List.length_append, hletters]
    omega
  have hlong : 64 ≤ (versionPattern fw).length ↔ ¬ fw.length < 60 := by
    have hletters : (asciiBytes "_fwv").length = 4 := by decide +kernel
    rw [versionPattern, List.length_append, hletters]
    omega
  have hhwToken : ∀ c, isVersionChar c = false → c ∉ hwToken hw := fun c hc hmem =>
    hhw.not_mem hc (mem_otaVersionFormatUrlToken hmem)
  have hfwToken : ∀ c, isVersionChar c = false → c ∉ fwToken fw := fun c hc hmem =>
    hfw.not_mem hc (mem_otaVersionFormatUrlToken hmem)
  have hcombo := artifactName_infix_iff before rest hhwToken hfwToken hh hf
  have hpattern := versionPattern_infix_iff before hfw hh hf hrest
  have hcurrent : SaysCurrent hw fw h f rest ∨ PatternIn hw fw before ∨ PatternIn hw fw rest ↔
      artifactName (hwToken hw) (fwToken fw) <:+: before ++ (artifactName h f ++ rest) ∨
        (fw.length < 60 ∧ versionPattern fw <:+: before ++ (artifactName h f ++ rest)) := by
    rw [hcombo, hpattern, SaysCurrent, PatternIn, PatternIn, eq_comm (a := h)]
    exact or_parts_iff
  rw [hcurrent, otaStCheckVersionMatch]
  dsimp only
  rw [if_neg hkey, if_neg hfw.nonempty, if_neg hshort]
  by_cases hboth : artifactName (hwToken hw) (fwToken fw) <:+: before ++ (artifactName h f ++ rest)
  · rw [if_pos fun hnone => strstr_eq_none_iff.mp hnone hboth]
    exact iff_of_true rfl (.inl hboth)
  · rw [if_neg (not_not_intro (strstr_eq_none_iff.mpr hboth)), or_iff_right hboth]
    by_cases hfits : fw.length < 60
    · rw [if_neg fun hle => hlong.mp hle hfits, and_iff_right hfits]
      by_cases hfirm : versionPattern fw <:+: before ++ (artifactName h f ++ rest)
      · rw [if_pos fun hnone => strstr_eq_none_iff.mp hnone hfirm]
        exact iff_of_true rfl hfirm
      · rw [if_neg (not_not_intro (strstr_eq_none_iff.mpr hfirm))]
        exact iff_of_false (by decide) hfirm
    · rw [if_pos (hlong.mpr hfits)]
      exact iff_of_false (by decide) fun h => hfits h.1

/-- The address tells the current versions from others: if it is for them, its artifact's name or
another part says so in a way that is looked for, and otherwise none does. -/
structure TellsCurrent (hw fw h f before rest : List Byte) : Prop where
  same : SameVersion h hw ∧ SameVersion f fw →
    SaysCurrent hw fw h f rest ∨ PatternIn hw fw before ∨ PatternIn hw fw rest
  differ : ¬ (SameVersion h hw ∧ SameVersion f fw) →
    ¬ SaysCurrent hw fw h f rest ∧ ¬ PatternIn hw fw before ∧ ¬ PatternIn hw fw rest

/-- The check says that no update is required if and only if the address is for the current
versions, exactly for the addresses that tell them from others. -/
theorem ota_st_version_match_iff (hhw : IsVersion hw) (hfw : IsVersion fw) (hh : IsVersion h)
    (hf : IsVersion f) (hrest : NameEnds rest) :
    (otaStCheckVersionMatch (some (before ++ (artifactName h f ++ rest))) (some hw) (some fw) = 0 ↔
      SameVersion h hw ∧ SameVersion f fw) ↔ TellsCurrent hw fw h f before rest := by
  rw [otaStCheckVersionMatch_eq_zero_iff hhw hfw hh hf hrest]
  constructor
  · intro hiff
    refine ⟨hiff.mpr, fun hdiffer => ?_⟩
    have hno := mt hiff.mp hdiffer
    rw [not_or, not_or] at hno
    exact hno
  · intro htells
    constructor
    · intro hcurrent
      by_contra hdiffer
      obtain ⟨hname, hbefore, hbehind⟩ := htells.differ hdiffer
      exact hcurrent.elim hname fun hpart => hpart.elim hbefore hbehind
    · exact htells.same

end Match

/-- A version of digits. -/
theorem isVersion_example {v : List Byte} (hchars : v.all isVersionChar = true) (hne : v ≠ [])
    (hlast : v.getLast? ≠ some 0x2E) : IsVersion v :=
  ⟨List.all_eq_true.mp hchars, hne, hlast⟩

/-- The current versions without their leading zeros. -/
theorem ota_st_version_match_current :
    (otaStCheckVersionMatch (some (asciiBytes "https://fota/" ++
          (artifactName (asciiBytes "101") (asciiBytes "106") ++ asciiBytes ".bin")))
        (some (asciiBytes "0101")) (some (asciiBytes "0106")) = 0 ↔
      SameVersion (asciiBytes "101") (asciiBytes "0101") ∧
        SameVersion (asciiBytes "106") (asciiBytes "0106")) ↔
    TellsCurrent (asciiBytes "0101") (asciiBytes "0106") (asciiBytes "101") (asciiBytes "106")
      (asciiBytes "https://fota/") (asciiBytes ".bin") :=
  ota_st_version_match_iff
    (isVersion_example (by decide +kernel) (by decide +kernel) (by decide +kernel))
    (isVersion_example (by decide +kernel) (by decide +kernel) (by decide +kernel))
    (isVersion_example (by decide +kernel) (by decide +kernel) (by decide +kernel))
    (isVersion_example (by decide +kernel) (by decide +kernel) (by decide +kernel))
    (by
      intro c hc hversion
      obtain rfl : 0x2E = c := Option.some.inj hc
      exact ⟨rfl, 0x62, rfl, by decide⟩)

/-- With the firmware 10 an update to 106 is not required. -/
theorem ota_st_version_match_suppresses_update :
    otaStCheckVersionMatch (some (asciiBytes "https://fota/cgst_hwv101_fwv106.bin"))
        (some (asciiBytes "101")) (some (asciiBytes "10")) = 0 ∧
      ¬ SameVersion (asciiBytes "106") (asciiBytes "10") := by
  unfold SameVersion
  decide +kernel

end WalnutGateway
