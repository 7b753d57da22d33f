import PricePublisher.Proofs.Signing.PriceWord
import PricePublisher.Signing.Payload

/-!
# Telling the parts of a signed message apart

A signed message joins its four parts without separators or lengths, and the name
of the asset may have any length.  The parts can be told apart all the same: an
address has 20 bytes and the two words at the end have 32 each, so the name is
what lies between.

The time is cut to whole seconds and the price to 256 bits before they are
written; nothing else is lost.  This holds for all that can be signed.
-/

namespace PricePublisher

/-- Different texts have different bytes. -/
theorem Bytes.ofText_inj
    {first second : String} :
    ofText first = ofText second ↔ first = second := by
  constructor
  · intro same
    have data_eq : first.toByteArray.data.toList = second.toByteArray.data.toList := by
      simpa [ofText, String.toUTF8_eq_toByteArray, ByteArray.toList, toList_loop] using same
    exact String.toByteArray_inj.mp (ByteArray.ext (Array.toList_inj.mp data_eq))
  · rintro rfl
    rfl

namespace PriceWord

/-- A text with a word denotes a number, whose word it is. -/
theorem exists_of_ofText_eq_ok
    {text : String} {word : Bytes}
    (accepted : ofText text = .ok word) :
    ∃ number, Digits.toInt? text.toList = some number ∧ word = ofInt number := by
  rcases ofText_eq_ok_iff.mp accepted with ⟨number, read, _, word_eq⟩
  exact ⟨number, read, word_eq⟩

end PriceWord

namespace Payload

/-- The seconds of a time that has 64 bits are determined by their word. -/
theorem seconds_word_inj
    {first second : Int64} :
    PriceWord.ofInt (seconds first.toInt) = PriceWord.ofInt (seconds second.toInt) ↔
      seconds first.toInt = seconds second.toInt := by
  have bounded : ∀ time : Int64, (seconds time.toInt).natAbs ≤ 2 ^ 63 := by
    intro time
    have shorter : (seconds time.toInt).natAbs ≤ time.toInt.natAbs :=
      Int.natAbs_tdiv_le_natAbs _ _
    have below := time.toInt_lt
    have above := time.le_toInt
    omega
  have first_bounded := bounded first
  have second_bounded := bounded second
  rw [PriceWord.ofInt_inj]
  constructor
  · intro congruent
    rw [Int.ModEq] at congruent
    omega
  · intro same
    rw [same]

/-- Addresses and words have fixed lengths, so a message splits in one way only. -/
theorem assemble_inj
    {address other : Bytes} {asset otherAsset : String}
    {timestamp otherTimestamp : Int} {word otherWord : Bytes}
    (address_length : address.length = other.length)
    (word_length : word.length = otherWord.length) :
    assemble address asset timestamp word = assemble other otherAsset otherTimestamp otherWord ↔
      address = other ∧ asset = otherAsset ∧
        PriceWord.ofInt (seconds timestamp) = PriceWord.ofInt (seconds otherTimestamp) ∧
        word = otherWord := by
  constructor
  · intro same
    obtain ⟨before_price, price_eq⟩ := List.append_inj' same word_length
    obtain ⟨before_time, time_eq⟩ := List.append_inj' before_price
      ((PriceWord.length_ofInt _).trans (PriceWord.length_ofInt _).symm)
    obtain ⟨address_eq, asset_eq⟩ := List.append_inj before_time address_length
    exact ⟨address_eq, Bytes.ofText_inj.mp asset_eq, time_eq, price_eq⟩
  · rintro ⟨rfl, rfl, time_eq, rfl⟩
    rw [assemble, assemble, time_eq]

/--
Two price texts that have words make messages, whatever the address, the asset
and the time.  The messages are equal exactly if the addresses and the assets are
equal, the times agree in whole seconds, and the prices in their last 256 bits.
-/
theorem bytes_eq_iff
    (address other : Vector UInt8 20) (asset otherAsset : String)
    (time otherTime : Int64)
    {price otherPrice : String} {word otherWord : Bytes}
    (accepted : PriceWord.ofText price = .ok word)
    (otherAccepted : PriceWord.ofText otherPrice = .ok otherWord) :
    ∃ message otherMessage number otherNumber,
      bytes address.toList asset time.toInt price = .ok message ∧
      hash address.toList asset time.toInt price = .ok (Keccak.hash message) ∧
      bytes other.toList otherAsset otherTime.toInt otherPrice = .ok otherMessage ∧
      hash other.toList otherAsset otherTime.toInt otherPrice =
        .ok (Keccak.hash otherMessage) ∧
      Digits.toInt? price.toList = some number ∧
      Digits.toInt? otherPrice.toList = some otherNumber ∧
      (message = otherMessage ↔
        address = other ∧ asset = otherAsset ∧
          time.toInt.tdiv 1000000000 = otherTime.toInt.tdiv 1000000000 ∧
          number ≡ otherNumber [ZMOD 2 ^ 256]) := by
  obtain ⟨number, read, word_eq⟩ := PriceWord.exists_of_ofText_eq_ok accepted
  obtain ⟨otherNumber, otherRead, otherWord_eq⟩ :=
    PriceWord.exists_of_ofText_eq_ok otherAccepted
  rw [word_eq] at accepted
  rw [otherWord_eq] at otherAccepted
  refine ⟨assemble address.toList asset time.toInt (PriceWord.ofInt number),
    assemble other.toList otherAsset otherTime.toInt (PriceWord.ofInt otherNumber),
    number, otherNumber, ?_, ?_, ?_, ?_, read, otherRead, ?_⟩
  · rw [bytes, accepted]
    rfl
  · rw [hash, bytes, accepted]
    rfl
  · rw [bytes, otherAccepted]
    rfl
  · rw [hash, bytes, otherAccepted]
    rfl
  · have address_length : address.toList.length = other.toList.length :=
      Vector.length_toList.trans Vector.length_toList.symm
    have word_length :
        (PriceWord.ofInt number).length = (PriceWord.ofInt otherNumber).length :=
      (PriceWord.length_ofInt _).trans (PriceWord.length_ofInt _).symm
    rw [assemble_inj address_length word_length, Vector.toList_inj, seconds_word_inj,
      PriceWord.ofInt_inj]
    exact Iff.rfl

/-- Two different price texts and two times within one second make one message. -/
theorem bytes_eq_for_wrapped_price :
    let address := Vector.replicate 20 0x2d
    let highest :=
      "115792089237316195423570985008687907853269984665640564039457584007913129639935"
    PriceWord.ofText "-1" = .ok (List.replicate 32 255) ∧
      PriceWord.ofText highest = .ok (List.replicate 32 255) ∧
      ∃ message,
        bytes address.toList "ÉTÉ-1" (-999999999) "-1" = .ok message ∧
        bytes address.toList "ÉTÉ-1" 5 highest = .ok message := by
  intro address highest
  have below_zero : PriceWord.ofText "-1" = .ok (List.replicate 32 255) := by
    decide +kernel
  have above_half : PriceWord.ofText highest = .ok (List.replicate 32 255) := by
    decide +kernel
  refine ⟨below_zero, above_half, ?_⟩
  obtain ⟨message, otherMessage, number, otherNumber, made, _, otherMade, _, read, otherRead,
    same_iff⟩ := bytes_eq_iff address address "ÉTÉ-1" "ÉTÉ-1" (-999999999) 5 below_zero above_half
  have number_eq : Digits.toInt? "-1".toList = some (-1) := by
    decide +kernel
  have otherNumber_eq : Digits.toInt? highest.toList = some (2 ^ 256 - 1) := by
    decide +kernel
  rw [number_eq, Option.some.injEq] at read
  rw [otherNumber_eq, Option.some.injEq] at otherRead
  have same : message = otherMessage :=
    same_iff.mpr ⟨rfl, rfl, by decide, by subst read otherRead; decide⟩
  exact ⟨message, made, same ▸ otherMade⟩

end Payload

end PricePublisher
