import NodeSettings.Document.Content
import NodeSettings.Proofs.Text.WellFormed

/-!
# Properties files that are no text

A properties file is refused as no text exactly if its octets are not well-formed. The refusal
names the first octet behind the longest well-formed octets in front and how many these are, and it
quotes the maximal subpart that begins there.
-/

namespace NodeSettings

theorem readProperties_eq_notText_iff {read : FileReader} {path : Text} {octets : List UInt8}
    (h : read path = .ok octets) {flaw : Utf8.Flaw} :
    readProperties read path = .error (.refused (.notText flaw))
      ↔ Utf8.decode octets = .error flaw := by
  simp only [readProperties, h, readContent]
  cases Utf8.decode octets with
  | error other => simp
  | ok document => cases hb : Document.bindings document <;> simp [hb]

theorem readProperties_notText {read : FileReader} {path : Text} {octets : List UInt8}
    (h : read path = .ok octets) :
    ((∃ flaw, readProperties read path = .error (.refused (.notText flaw)))
        ↔ ¬ Utf8.WellFormed octets) ∧
      (∀ flaw, readProperties read path = .error (.refused (.notText flaw)) →
        flaw.Locates octets ∧
        (ContentFlaw.notText flaw).message path
          = "Config file " ++ path ++ " is not valid UTF-8: byte 0x"
            ++ Text.hexDigits 2 flaw.first.toNat ++ " at offset " ++ Decimal.ofNat flaw.offset ∧
        (ContentFlaw.notText flaw).raw = Text.quotedOctets flaw.octets) ∧
      ∀ s, Utf8.encode s = some octets →
        ¬ ∃ flaw, readProperties read path = .error (.refused (.notText flaw)) := by
  have hiff : (∃ flaw, readProperties read path = .error (.refused (.notText flaw)))
      ↔ ¬ Utf8.WellFormed octets := by
    simp only [readProperties_eq_notText_iff h, Utf8.decode_eq_error_iff]
  refine ⟨hiff, ?_, ?_⟩
  · intro flaw hflaw
    have hlocates := Utf8.locates_of_decode ((readProperties_eq_notText_iff h).mp hflaw)
    exact ⟨hlocates, rfl, rfl⟩
  · intro s hs hflaw
    exact hiff.mp hflaw (Utf8.wellFormed_of_encode hs)

/-- A character of three octets whose third is missing, behind one of each size. -/
theorem readProperties_notText_cut_off :
    let octets : List UInt8 :=
      [0x23, 0xC3, 0xA9, 0xE2, 0x82, 0xAC, 0xF0, 0x9F, 0x98, 0x80, 0xE2, 0x82, 0x0A]
    let read : FileReader := fun _ => .ok octets
    let flaw : Utf8.Flaw := ⟨10, 0xE2, [0x82], .invalidContinuation⟩
    read "p" = .ok octets ∧ readProperties read "p" = .error (.refused (.notText flaw)) ∧
      ¬ Utf8.WellFormed octets ∧ flaw.Locates octets ∧
      (ContentFlaw.notText flaw).message "p"
        = ("Config file p is not valid UTF-8: byte 0xe2 at offset 10" : Text) ∧
      (ContentFlaw.notText flaw).raw = ("b'\\xe2\\x82'" : Text) := by
  intro octets read flaw
  have h : read "p" = .ok octets := rfl
  have hflaw : readProperties read "p" = .error (.refused (.notText flaw)) := by decide +kernel
  obtain ⟨hiff, hall, -⟩ := readProperties_notText h
  obtain ⟨hlocates, -, -⟩ := hall flaw hflaw
  exact ⟨h, hflaw, hiff.mp ⟨flaw, hflaw⟩, hlocates, by decide +kernel, by decide +kernel⟩

end NodeSettings
