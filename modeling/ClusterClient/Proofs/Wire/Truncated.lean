import ClusterClient.Proofs.Wire.Frame
import ClusterClient.Proofs.Wire.Incremental

namespace ClusterClient

open Wire Codec

theorem Endpoint.codec_incremental : Endpoint.codec.Incremental :=
  (text_incremental.pair u16_incremental).imap

theorem Status.codec_incremental : Status.codec.Incremental :=
  (i32_incremental.pair (text_incremental.option.pair Endpoint.codec_incremental.option)).imap

theorem NodeLocation.codec_incremental : NodeLocation.codec.Incremental :=
  (i32_incremental.pair Endpoint.codec_incremental).imap

theorem NodeResource.codec_incremental : NodeResource.codec.Incremental :=
  (u32_incremental.pair u64_incremental).imap

theorem NodeConfiguration.codec_incremental : NodeConfiguration.codec.Incremental :=
  (NodeLocation.codec_incremental.pair NodeResource.codec_incremental).imap

theorem NodeVersion.codec_incremental : NodeVersion.codec.Incremental :=
  (text_incremental.pair text_incremental).imap

theorem Registration.codec_incremental : Registration.codec.Incremental :=
  (text_incremental.pair (NodeConfiguration.codec_incremental.pair NodeVersion.codec_incremental)).imap

theorem ColumnType.codec_incremental : ColumnType.codec.Incremental :=
  (variant_incremental 6).imap

theorem RawRow.codec_incremental : RawRow.codec.Incremental :=
  (i64_incremental.pair bytes_incremental.option.list).imap

theorem FirstPage.codec_incremental : FirstPage.codec.Incremental :=
  (Status.codec_incremental.pair <| i64_incremental.pair <| text_incremental.list.pair <|
    ColumnType.codec_incremental.list.pair <| (text_incremental.keyMap u64_incremental).pair <|
    RawRow.codec_incremental.list.pair (bit_incremental _ _)).imap

theorem NextPage.codec_incremental : NextPage.codec.Incremental :=
  (Status.codec_incremental.pair (RawRow.codec_incremental.list.pair (bit_incremental _ _))).imap

namespace MessageKind

open Choice in
theorem codec_incremental : (kind : MessageKind) → kind.codec.Incremental
  | configRequest =>
    ((only_incremental Registration.codec_incremental).or <|
      (only_incremental Registration.codec_incremental).or <|
      (only_incremental NodeLocation.codec_incremental).or (only_incremental i32_incremental)).codec.imap
  | configResponse =>
    have status := Status.codec_incremental
    have members := Endpoint.codec_incremental.list
    have configurations := i32_incremental.keyMap NodeConfiguration.codec_incremental
    ((only_incremental (status.pair (members.pair i32_incremental))).or <|
      (only_incremental (status.pair members)).or <|
      (only_incremental status).or (only_incremental (status.pair configurations))).codec.imap
  | dataRequest =>
    ((only_incremental (text_incremental.pair (u32_incremental.pair u64_incremental))).or
      (only_incremental (i64_incremental.pair u32_incremental))).codec.imap
  | dataResponse =>
    ((only_incremental FirstPage.codec_incremental).or
      (only_incremental NextPage.codec_incremental)).codec.imap

end MessageKind

namespace Wire.Frame

variable {α : Type} {c : Codec α} {frame : Frame α} {bytes p : Bytes}

theorem decode_of_short (h : p.length < headerSize) :
    decode c p = .error (.invalidFormat "Wire data too short (need format byte + correlation_id)") := by
  match p, h with
  | [], _ | [_], _ | [_, _], _ | [_, _, _], _ | [_, _, _, _], _ => rfl

theorem bytes_of_encode (h : frame.encode c = .ok bytes) : bytes = frame.bytes c ∧ frame.size c ≤ maxSize := by
  rw [encode_eq] at h
  split at h <;> cases h
  case isFalse hs => exact ⟨rfl, Nat.not_lt.mp hs⟩

-- A part of a frame with the whole header has a part of the payload behind it.
theorem payload_of_prefix (h : p <+: frame.bytes c) (hl : headerSize ≤ p.length) :
    ∃ payload, p = header frame.format frame.id ++ payload ∧
      payload <+: c.put frame.format frame.message := by
  have hh : header frame.format frame.id <+: p :=
    List.prefix_of_prefix_length_le (List.prefix_append ..) h (by rwa [length_header])
  obtain ⟨payload, rfl⟩ := hh
  exact ⟨payload, rfl, (List.prefix_append_right_inj _).mp h⟩

theorem decode_of_cut (hi : c.Incremental) (hr : c.Reads frame.format frame.message)
    (h : p <+: frame.bytes c) (hne : p ≠ frame.bytes c) (hl : headerSize ≤ p.length) :
    ∃ fault : Fault, fault.IsCut frame.format ∧ decode c p = .error (.deserialization fault.message) := by
  obtain ⟨payload, rfl, more, hp⟩ := payload_of_prefix h hl
  have hm : more ≠ [] := by
    rintro rfl
    rw [List.append_nil] at hp
    exact hne (by rw [bytes, hp])
  have hw := hr []
  rw [List.append_nil, ← hp] at hw
  obtain ⟨fault, hc, he⟩ := (hi frame.format).isCut_of_reads hw hm
  exact ⟨fault, hc, by rw [decode_header, he]⟩

-- A part of a frame is too short to have a header, or is told apart from a frame by where it ends. As the
-- message lists its maps in any order, this is so for each order.
theorem decode_truncated (kind : MessageKind) (frame : Frame kind.Message) {bytes p : Bytes}
    (h : frame.encode kind.codec = .ok bytes) (hp : p <+: bytes) (hne : p ≠ bytes) :
    (p.length < 5 → decode kind.codec p =
      .error (.invalidFormat "Wire data too short (need format byte + correlation_id)")) ∧
    (5 ≤ p.length → ∃ fault : Fault, fault.IsCut frame.format ∧
      decode kind.codec p = .error (.deserialization fault.message)) := by
  obtain ⟨rfl, hs⟩ := bytes_of_encode h
  have hf := kind.codec_faithful
  have hr : kind.codec.Reads frame.format frame.message :=
    hf.reads (Nat.lt_of_le_of_lt (Nat.le_add_left ..) (Nat.lt_of_le_of_lt hs (by decide)))
  exact ⟨decode_of_short, decode_of_cut kind.codec_incremental hr hp hne⟩

-- The frame of a page with one row, without its last byte and with no more than a part of its header.
theorem decode_truncated_page :
    let page : NextPage := { status := .success, rows := [⟨300, [some [1, 2], none]⟩], hasMore := true }
    let frame : Frame DataResponse := { format := .compact, id := 7, message := .moreData page }
    let bytes : Bytes := [1, 0, 0, 0, 7, 1, 0x90, 3, 0, 0, 1, 0xD8, 4, 2, 1, 2, 1, 2, 0, 1]
    frame.encode DataResponse.codec = .ok bytes ∧
      decode DataResponse.codec bytes.dropLast =
        .error (.deserialization "Hit the end of buffer, expected more data") ∧
      decode DataResponse.codec (bytes.take 4) =
        .error (.invalidFormat "Wire data too short (need format byte + correlation_id)") := by
  intro page frame bytes
  have he : frame.encode DataResponse.codec = .ok bytes := by decide +kernel
  have ⟨_, hp⟩ := decode_truncated .dataResponse frame he bytes.dropLast_prefix (by decide)
  have ⟨hq, _⟩ := decode_truncated .dataResponse frame he (bytes.take_prefix 4) (by decide)
  have ⟨fault, hc, hd⟩ := hp (by decide)
  cases hc
  exact ⟨he, hd, hq (by decide)⟩

end Wire.Frame

end ClusterClient
