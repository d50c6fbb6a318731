import ClusterClient.Proofs.Wire.Frame
import ClusterClient.Proofs.Wire.Frugal
import Mathlib

namespace ClusterClient

open Wire Codec

theorem Endpoint.codec_canonical : Endpoint.codec.Canonical :=
  (text_canonical.pair u16_canonical).imap (fun _ => rfl) fun _ => rfl

theorem Status.codec_canonical : Status.codec.Canonical :=
  (i32_canonical.pair (text_canonical.option.pair Endpoint.codec_canonical.option)).imap
    (fun _ => rfl) fun _ => rfl

theorem NodeLocation.codec_canonical : NodeLocation.codec.Canonical :=
  (i32_canonical.pair Endpoint.codec_canonical).imap (fun _ => rfl) fun _ => rfl

theorem NodeResource.codec_canonical : NodeResource.codec.Canonical :=
  (u32_canonical.pair u64_canonical).imap (fun _ => rfl) fun _ => rfl

theorem NodeConfiguration.codec_canonical : NodeConfiguration.codec.Canonical :=
  (NodeLocation.codec_canonical.pair NodeResource.codec_canonical).imap (fun _ => rfl) fun _ => rfl

theorem NodeVersion.codec_canonical : NodeVersion.codec.Canonical :=
  (text_canonical.pair text_canonical).imap (fun _ => rfl) fun _ => rfl

theorem Registration.codec_canonical : Registration.codec.Canonical :=
  (text_canonical.pair (NodeConfiguration.codec_canonical.pair NodeVersion.codec_canonical)).imap
    (fun _ => rfl) fun _ => rfl

namespace ConfigRequest

open Choice in
theorem choice_canonical : choice.Canonical :=
  (only_canonical Registration.codec_canonical).or <|
    (only_canonical Registration.codec_canonical).or <|
    (only_canonical NodeLocation.codec_canonical).or (only_canonical i32_canonical)

theorem toSum_ofSum (r : Registration ⊕ Registration ⊕ NodeLocation ⊕ NodeId) : (ofSum r).toSum = r := by
  obtain _ | _ | _ | _ := r <;> rfl

theorem codec_canonical : codec.Canonical :=
  Canonical.imap (choice_canonical.codec (by decide)) ofSum_toSum fun _ => toSum_ofSum _

end ConfigRequest

namespace ConfigResponse

-- The same response, with its map listed in another order.
inductive Relisted : ConfigResponse → ConfigResponse → Prop
  | refl (r : ConfigResponse) : Relisted r r
  | configuration (s : Status) {m m' : KeyMap NodeId NodeConfiguration} :
    m.Same m' → Relisted (.configuration s m) (.configuration s m')

def Mapless : ConfigResponse → Prop
  | configuration _ _ => False
  | _ => True

open Choice in
theorem codec_frugal : codec.Frugal Relisted Mapless := by
  have status := Status.codec_canonical
  have members := Endpoint.codec_canonical.list
  have configurations := keyMap_frugal i32_canonical NodeConfiguration.codec_canonical
  have choice := (only_frugal (status.pair (members.pair i32_canonical))).or <|
    (only_frugal (status.pair members)).or <|
    (only_frugal status).or (only_frugal (.pair status configurations))
  refine (choice.codec (by decide)).imap ofParts_toParts ?same ?plain
  case same =>
    intro _ _ parts _ _ r hr
    obtain _ | _ | _ | _ := parts <;> cases hr
    case inl.refl                     => exact .inl rfl
    case inr.inl.refl                 => exact .inr (.inl rfl)
    case inr.inr.inl.refl             => exact .inr (.inr (.inl rfl))
    case inr.inr.inr.refl             => exact .inr (.inr (.inr ⟨rfl, fun _ => rfl⟩))
    case inr.inr.inr.configuration hs => exact .inr (.inr (.inr ⟨rfl, hs⟩))
  case plain =>
    intro _ _ parts _ _ hp
    obtain _ | _ | _ | _ := parts
    case inr.inr.inr => contradiction
    all_goals exact ⟨trivial, rfl⟩

end ConfigResponse

namespace DataRequest

open Choice in
theorem choice_canonical : choice.Canonical :=
  (only_canonical (text_canonical.pair (u32_canonical.pair u64_canonical))).or
    (only_canonical (i64_canonical.pair u32_canonical))

theorem toSum_ofSum (r : (String × UInt32 × UInt64) ⊕ (Int64 × UInt32)) : (ofSum r).toSum = r := by
  cases r <;> rfl

theorem codec_canonical : codec.Canonical :=
  Canonical.imap (choice_canonical.codec (by decide)) ofSum_toSum fun _ => toSum_ofSum _

end DataRequest

namespace ColumnType

theorem index_ofIndex {i : Nat} (h : i < 6) : (ofIndex i).index = i := by
  decide +revert

theorem codec_canonical : codec.Canonical :=
  (variant_canonical (by decide)).imap ofIndex_index fun h => index_ofIndex (take_variant h).left

end ColumnType

theorem RawRow.codec_canonical : RawRow.codec.Canonical :=
  (i64_canonical.pair bytes_canonical.option.list).imap (fun _ => rfl) fun _ => rfl

-- The same page, with its column index listed in another order.
inductive FirstPage.Relisted (page : FirstPage) : FirstPage → Prop
  | intro {index : KeyMap String UInt64} :
    page.columnIndex.Same index → Relisted page { page with columnIndex := index }

theorem FirstPage.codec_frugal : FirstPage.codec.Frugal FirstPage.Relisted fun _ => False := by
  have index := keyMap_frugal text_canonical u64_canonical
  have rest := RawRow.codec_canonical.list.pair (bit_canonical .boolByte .compactBool)
  have page := Frugal.pair Status.codec_canonical <| .pair i64_canonical <| .pair text_canonical.list <|
    .pair ColumnType.codec_canonical.list <| index.pair rest
  refine page.imap (fun _ => rfl) ?_ fun _ => False.elim
  intro _ _ _ _ _ _ hr
  cases hr
  case intro hs => exact ⟨rfl, rfl, rfl, rfl, hs, rfl⟩

theorem NextPage.codec_canonical : NextPage.codec.Canonical :=
  (Status.codec_canonical.pair (RawRow.codec_canonical.list.pair (bit_canonical ..))).imap
    (fun _ => rfl) fun _ => rfl

namespace DataResponse

-- The same response, with the column index of a first page listed in another order.
inductive Relisted : DataResponse → DataResponse → Prop
  | timeseries {page page' : FirstPage} : page.Relisted page' → Relisted (.timeseries page) (.timeseries page')
  | moreData (page : NextPage) : Relisted (.moreData page) (.moreData page)

def Mapless : DataResponse → Prop
  | timeseries _ => False
  | moreData _   => True

open Choice in
theorem codec_frugal : codec.Frugal Relisted Mapless := by
  have choice := (only_frugal FirstPage.codec_frugal).or (only_frugal NextPage.codec_canonical)
  refine (choice.codec (by decide)).imap ofSum_toSum ?same ?plain
  case same =>
    intro _ _ page _ _ r hr
    cases page <;> cases hr
    case inl.timeseries hp => exact .inl hp
    case inr.moreData      => exact .inr rfl
  case plain =>
    intro _ _ page _ _ hp
    cases page
    case inl => contradiction
    case inr => exact ⟨trivial, rfl⟩

end DataResponse

namespace MessageKind

-- The same message, with its map listed in another order if it has one.
def Relisted : (kind : MessageKind) → kind.Message → kind.Message → Prop
  | configRequest  => Eq
  | configResponse => ConfigResponse.Relisted
  | dataRequest    => Eq
  | dataResponse   => DataResponse.Relisted

def Mapless : (kind : MessageKind) → kind.Message → Prop
  | configRequest  => fun _ => True
  | configResponse => ConfigResponse.Mapless
  | dataRequest    => fun _ => True
  | dataResponse   => DataResponse.Mapless

theorem codec_frugal : (kind : MessageKind) → kind.codec.Frugal kind.Relisted kind.Mapless
  | configRequest  => ConfigRequest.codec_canonical
  | configResponse => ConfigResponse.codec_frugal
  | dataRequest    => DataRequest.codec_canonical
  | dataResponse   => DataResponse.codec_frugal

end MessageKind

namespace Wire.Frame

variable {α : Type} {c : Codec α} {data : Bytes} {frame : Frame α} {same : α → α → Prop} {plain : α → Prop}

theorem take_payload_of_decode (h : decode c data = .ok frame) :
    ∃ payload rest, data = header frame.format frame.id ++ payload ∧
      c.take frame.format payload = .ok (frame.message, rest) := by
  have hd := List.take_append_drop headerSize data
  rw [take_of_decode h] at hd
  rw [← hd, decode_header] at h
  split at h
  case h_2 => contradiction
  case h_1 rest ht =>
    have hm := congrArg Frame.message (Except.ok.inj h)
    exact ⟨_, rest, hd.symm, hm ▸ ht⟩

theorem size_le_of_decode (hc : c.Frugal same plain) (h : decode c data = .ok frame) {message : α}
    (hm : same frame.message message) : size c { frame with message } ≤ data.length := by
  have ⟨payload, rest, hd, ht⟩ := take_payload_of_decode h
  have hs := hc.size_le ht hm
  rw [hd, List.length_append, length_header]
  simp only [size]
  omega

theorem reads_of_decode (hc : c.Frugal same plain) (h : decode c data = .ok frame) {message : α}
    (hm : same frame.message message) : c.Reads frame.format message := by
  have ⟨_, _, _, ht⟩ := take_payload_of_decode h
  exact hc.reads ht hm

theorem starts_of_decode (hc : c.Frugal same plain) (h : decode c data = .ok frame)
    (hf : frame.format = .binary) (hp : plain frame.message) : frame.bytes c <+: data := by
  have ⟨payload, rest, hd, ht⟩ := take_payload_of_decode h
  rw [hf] at ht
  refine ⟨rest, ?_⟩
  rw [hd, bytes, List.append_assoc, hf, hc.put_append ht hp]

-- No byte string is as long as 2 ^ 64, and no message that is part of one.
theorem decode_of_starts (hc : c.Faithful) (hl : data.length < UInt64.size) (h : frame.bytes c <+: data) :
    decode c data = .ok frame := by
  have ⟨suffix, hd⟩ := h
  have hs : frame.size c < UInt64.size := length_bytes hc.toMeasured frame ▸ Nat.lt_of_le_of_lt h.length_le hl
  rw [← hd]
  exact decode_bytes_of_reads (hc.reads (Nat.lt_of_le_of_lt (Nat.le_add_left ..) hs)) suffix

-- What was decoded may be listed again in any order: it takes no more bytes, and is read back. Where there
-- is nothing to list, a binary frame is what its bytes say, and only those bytes say it.
theorem decode_frugal (kind : MessageKind) (data : Bytes) (frame : Frame kind.Message) :
    (decode kind.codec data = .ok frame → ∀ message, kind.Relisted frame.message message →
      let relisted : Frame kind.Message := { frame with message }
      (relisted.bytes kind.codec).length ≤ data.length ∧
        decode kind.codec (relisted.bytes kind.codec) = .ok relisted) ∧
    (frame.format = .binary → kind.Mapless frame.message →
      (decode kind.codec data = .ok frame → frame.bytes kind.codec <+: data) ∧
      (data.length < UInt64.size → frame.bytes kind.codec <+: data → decode kind.codec data = .ok frame)) := by
  have hf := kind.codec_faithful
  have hc := kind.codec_frugal
  constructor
  case left =>
    intro h message hm relisted
    constructor
    case left =>
      rw [length_bytes hf.toMeasured]
      exact size_le_of_decode hc h hm
    case right =>
      have hr : kind.codec.Reads relisted.format relisted.message := reads_of_decode hc h hm
      have hd := decode_bytes_of_reads hr []
      rwa [List.append_nil] at hd
  case right =>
    intro hb hp
    exact ⟨fun h => starts_of_decode hc h hb hp, decode_of_starts hf⟩

-- The compact response spells its variant with a byte too many, and has two entries for node 1. The binary
-- request has a byte too many at its end.
theorem decode_frugal_wasteful :
    let nodeAt (id : NodeId) (port : UInt16) : NodeConfiguration := {
      location := { nodeId := id, internalEndpoint := ⟨"n", port⟩ }
      resource := { cpuCores := 4, memoryBytes := 8 }
    }
    let response (es : List (NodeId × NodeConfiguration)) : Frame ConfigResponse :=
      { format := .compact, id := 7, message := .configuration .success (.ofList es) }
    let listed := response [(1, nodeAt 1 80), (2, nodeAt 2 80)]
    let relisted := response [(2, nodeAt 2 80), (1, nodeAt 1 80)]
    let data : Bytes := [1, 0, 0, 0, 7, 0x83, 0, 0x90, 3, 0, 0, 3, 2, 2, 1, 110, 81, 4, 8,
      4, 4, 1, 110, 80, 4, 8, 2, 2, 1, 110, 80, 4, 8]
    let request : Frame ConfigRequest := { format := .binary, id := 9, message := .getNodeConfiguration (-2) }
    let data' : Bytes := [0, 0, 0, 0, 9, 3, 0, 0, 0, 0xFE, 0xFF, 0xFF, 0xFF, 42]
    (decode ConfigResponse.codec data = .ok listed ∧
      (relisted.bytes ConfigResponse.codec).length ≤ data.length ∧
      decode ConfigResponse.codec (relisted.bytes ConfigResponse.codec) = .ok relisted) ∧
    decode ConfigRequest.codec data' = .ok request ∧ request.bytes ConfigRequest.codec <+: data' := by
  intro nodeAt response listed relisted data request data'
  have hd : decode ConfigResponse.codec data = .ok listed := by decide +kernel
  have hd' : decode ConfigRequest.codec data' = .ok request := by decide +kernel
  have hr : ConfigResponse.Relisted listed.message relisted.message :=
    .configuration .success (KeyMap.same_of_perm (.swap ..))
  have ⟨starts, back⟩ := (decode_frugal .configRequest data' request).right rfl trivial
  exact ⟨⟨hd, (decode_frugal .configResponse data listed).left hd relisted.message hr⟩,
    back (by decide) (starts hd'), starts hd'⟩

end Wire.Frame

end ClusterClient
