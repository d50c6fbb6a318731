import ClusterClient.Proofs.Wire.Message
import ClusterClient.Wire.Frame

namespace ClusterClient.Wire

theorem Format.ofByte?_byte (f : Format) : Format.ofByte? f.byte = some f := by
  cases f <;> rfl

theorem Format.byte_of_ofByte? {b : UInt8} {f : Format} (h : Format.ofByte? b = some f) : f.byte = b := by
  simp only [ofByte?] at h
  split at h
  case isTrue hb => cases h; exact hb.symm
  case isFalse =>
    split at h <;> cases h
    case isTrue hb => exact hb.symm

namespace Frame

variable {α : Type} {c : Codec α}

theorem header_eq (f : Format) (id : UInt32) :
    ∃ b₃ b₂ b₁ b₀, header f id = [f.byte, b₃, b₂, b₁, b₀] ∧ bigValue [b₃, b₂, b₁, b₀] = id.toNat := by
  have hl := length_putBig 4 id.toNat
  have hv := bigValue_putBig 4 id.toNat
  rw [Nat.mod_eq_of_lt (show id.toNat < 256 ^ 4 from id.toNat_lt)] at hv
  match hp : putBig 4 id.toNat, hl with
  | [b₃, b₂, b₁, b₀], _ => exact ⟨b₃, b₂, b₁, b₀, by simp [header, hp], hp ▸ hv⟩

theorem length_header (f : Format) (id : UInt32) : (header f id).length = headerSize := by
  simp [header, headerSize]

-- What is read after a header that was written depends on the payload alone.
theorem decode_header (f : Format) (id : UInt32) (payload : Bytes) :
    decode c (header f id ++ payload) =
      match c.take f payload with
      | .ok (message, _) => .ok { format := f, id, message }
      | .error fault => .error (.deserialization fault.message) := by
  have ⟨_, _, _, _, hh, hv⟩ := header_eq f id
  simp only [hh, List.cons_append, List.nil_append, decode, Format.ofByte?_byte, hv, UInt32.ofNat_toNat]
  cases c.take f payload <;> rfl

-- A frame that can be decoded starts with its header.
theorem take_of_decode {bytes : Bytes} {frame : Frame α} (h : decode c bytes = .ok frame) :
    bytes.take headerSize = header frame.format frame.id := by
  simp only [decode] at h
  split at h
  case h_2 => contradiction
  case h_1 b b₃ b₂ b₁ b₀ payload =>
    have hv : putBig 4 (bigValue [b₃, b₂, b₁, b₀]) = [b₃, b₂, b₁, b₀] := putBig_bigValue [b₃, b₂, b₁, b₀]
    have hn : bigValue [b₃, b₂, b₁, b₀] < UInt32.size :=
      Nat.lt_of_lt_of_eq (bigValue_lt _) (by simp)
    cases hf : Format.ofByte? b <;> simp only [hf] at h
    case none => contradiction
    case some f =>
      cases hc : c.take f payload <;> simp only [hc] at h
      case error => contradiction
      case ok =>
        cases h
        rw [header, Format.byte_of_ofByte? hf, UInt32.toNat_ofNat_of_lt' hn, hv]
        rfl

theorem length_bytes (h : c.Measured) (frame : Frame α) : (frame.bytes c).length = frame.size c := by
  simp [bytes, size, length_header, h.length_put]

theorem encode_eq (frame : Frame α) :
    frame.encode c =
      if maxSize < frame.size c then .error (.messageTooLarge (frame.size c) maxSize)
      else .ok (frame.bytes c) := by
  simp only [encode, checkedSize, bind, Except.bind]
  split <;> rename_i h <;> split at h <;> simp_all [pure, Except.pure]

theorem decode_bytes_of_reads {frame : Frame α} (h : c.Reads frame.format frame.message) (suffix : Bytes) :
    decode c (frame.bytes c ++ suffix) = .ok frame := by
  simp only [bytes, List.append_assoc, decode_header, h suffix]

theorem decode_bytes_append (h : c.Faithful) {frame : Frame α} (hs : frame.size c ≤ maxSize)
    (suffix : Bytes) : decode c (frame.bytes c ++ suffix) = .ok frame := by
  have hp : c.size frame.format frame.message < UInt64.size :=
    Nat.lt_of_le_of_lt (Nat.le_add_left ..) (Nat.lt_of_le_of_lt hs (by decide))
  exact decode_bytes_of_reads (h.reads hp) suffix

-- A message lists the entries of its maps in some order. As the message is any, so is that order.
theorem encode_decode (kind : MessageKind) (frame : Frame kind.Message) (suffix : Bytes) :
    let payload := kind.codec.put frame.format frame.message
    let n := 5 + payload.length
    (67108864 < n ∧ frame.encode kind.codec = .error (.messageTooLarge n 67108864)) ∨
    (n ≤ 67108864 ∧ ∃ bytes, frame.encode kind.codec = .ok bytes ∧ bytes.length = n ∧
      decode kind.codec (bytes ++ suffix) = .ok frame) := by
  intro payload n
  have hf := kind.codec_faithful
  have hn : frame.size kind.codec = n := by simp only [n, payload, hf.length_put, size, headerSize]
  cases Nat.lt_or_ge 67108864 n
  case inl hlt =>
    refine .inl ⟨hlt, ?_⟩
    rw [encode_eq, hn]
    exact if_pos hlt
  case inr hle =>
    have hs : frame.size kind.codec ≤ maxSize := hn ▸ hle
    refine .inr ⟨hle, frame.bytes kind.codec, ?_, ?_, ?_⟩
    case refine_1 => rw [encode_eq, if_neg (Nat.not_lt.mpr hs)]
    case refine_2 => rw [length_bytes hf.toMeasured, hn]
    case refine_3 => exact decode_bytes_append hf hs suffix

end Frame

end ClusterClient.Wire
