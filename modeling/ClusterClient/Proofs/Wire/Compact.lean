import ClusterClient.Proofs.Wire.Truncated
import Mathlib

namespace ClusterClient

namespace Wire

theorem sizeGroups_le (groups n : Nat) : sizeGroups groups n ≤ groups := by
  induction groups generalizing n
  case zero => exact Nat.le_refl _
  case succ groups hi =>
    have hq := hi (n / 128)
    simp only [sizeGroups]
    split <;> omega

theorem sizeGroups_le_of_lt (groups : Nat) {k n : Nat} (h : n < 128 ^ (k + 1)) : sizeGroups groups n ≤ k + 1 := by
  induction k generalizing groups n <;> cases groups <;> simp only [sizeGroups, Nat.zero_le]
  case zero.succ => rw [if_pos (by omega)]
  case succ.succ k hi groups =>
    have hq : n / 128 < 128 ^ (k + 1) := Nat.div_lt_of_lt_mul (by rwa [Nat.pow_succ, Nat.mul_comm] at h)
    have hs := hi groups hq
    split <;> omega

namespace Codec

variable {α β : Type} {c : Codec α} {d : Codec β} {k : α → Int} {l : β → Int}

-- On a value that fits into a frame, the compact format takes at least `k` bytes less than the binary one. Where `k` is
-- negative, it may take more.
def Spares (c : Codec α) (k : α → Int) : Prop :=
  ∀ a, c.size .binary a ≤ Frame.maxSize → c.size .compact a + k a ≤ c.size .binary a

namespace Spares

theorem mono {k' : α → Int} (h : c.Spares k) (hk : ∀ a, k' a ≤ k a) : c.Spares k' :=
  fun a hs => (Int.add_le_add_left (hk a) _).trans (h a hs)

theorem imap {wrap : α → β} {unwrap : β → α} (h : c.Spares k) : (c.imap wrap unwrap).Spares fun b => k (unwrap b) :=
  fun b => h (unwrap b)

theorem pair (hc : c.Spares k) (hd : d.Spares l) : (c.pair d).Spares fun ab => k ab.1 + l ab.2 := by
  intro ab hs
  simp only [Codec.pair] at hs ⊢
  have ha := hc ab.1 (by omega)
  have hb := hd ab.2 (by omega)
  omega

theorem option (h : c.Spares k) (hk : ∀ a, 0 ≤ k a) : c.option.Spares fun _ => 0 := by
  intro a hs
  cases a <;> simp only [Codec.option] at hs ⊢
  case none => omega
  case some a =>
    have ha := h a (by omega)
    have hk := hk a
    omega

end Spares

section Numbers

theorem unsigned_spares (w : Width) : (unsigned w).Spares fun _ => w.bytes - w.groups := by
  intro n _
  have hg := sizeGroups_le w.groups n
  simp only [unsigned]
  omega

theorem signed_spares (w : Width) : (signed w).Spares fun _ => w.bytes - w.groups := by
  intro i _
  have hg := sizeGroups_le w.groups (zigzag i)
  simp only [signed, signed.image, unsigned]
  omega

theorem u16_spares : u16.Spares fun _ => -1 := (unsigned_spares .w16).imap

theorem u32_spares : u32.Spares fun _ => -1 := (unsigned_spares .w32).imap

theorem u64_spares : u64.Spares fun _ => -2 := (unsigned_spares .w64).imap

theorem i32_spares : i32.Spares fun _ => -1 := (signed_spares .w32).imap

theorem i64_spares : i64.Spares fun _ => -2 := (signed_spares .w64).imap

-- What is in a frame is so short that four groups are enough for its length.
theorem length_size_le {n : Nat} (h : n ≤ Frame.maxSize) :
    (unsigned .w64).size .compact n + 4 ≤ (unsigned .w64).size .binary n := by
  have hn : n < 128 ^ (3 + 1) := Nat.lt_of_le_of_lt h (by decide)
  have hg : sizeGroups 10 n ≤ 3 + 1 := sizeGroups_le_of_lt 10 hn
  simp only [unsigned, Width.groups, Width.bytes]
  omega

theorem variant_size_add_le (count : Nat) {i : Nat} (h : i < 128) :
    (variant count).size .compact i + 3 ≤ (variant count).size .binary i := by
  have hg : sizeGroups 5 i ≤ 0 + 1 := sizeGroups_le_of_lt 5 (by omega)
  simp only [variant, unsigned, Width.groups, Width.bytes]
  omega

end Numbers

theorem bytes_spares : bytes.Spares fun _ => 4 := by
  intro bs hs
  simp only [bytes] at hs ⊢
  have hl := length_size_le (n := bs.length) (by omega)
  omega

theorem text_spares : text.Spares fun _ => 4 := by
  intro s hs
  simp only [text] at hs ⊢
  have hl := length_size_le (n := s.utf8ByteSize) (by omega)
  omega

theorem bit_spares {bad : UInt8 → Fault} {compactBad : Fault} : (bit bad compactBad).Spares fun _ => 0 :=
  fun _ _ => Int.le_refl _

section Lists

theorem sizeMany_spares (h : c.Spares k) (as : List α) (hs : sizeMany c .binary as ≤ Frame.maxSize) :
    sizeMany c .compact as + (as.map k).sum ≤ sizeMany c .binary as := by
  induction as
  case nil => exact Int.le_refl _
  case cons a as hi =>
    simp only [sizeMany, List.map_cons, List.sum_cons] at hs ⊢
    have ha := h a (by omega)
    have hi := hi (by omega)
    omega

-- A list is no longer than the binary form of its values, so that its length is short if they fit into a frame.
theorem Spares.list (h : c.Spares k) (hm : c.Measured) : c.list.Spares fun as => 4 + (as.map k).sum := by
  intro as hs
  simp only [Codec.list] at hs ⊢
  have ha := sizeMany_spares h as (by omega)
  have hle : as.length ≤ sizeMany c .binary as := length_le_sizeMany hm as
  have hl := length_size_le (n := as.length) (by omega)
  omega

theorem Spares.list_of_nonneg (h : c.Spares k) (hm : c.Measured) (hk : ∀ a, 0 ≤ k a) : c.list.Spares fun _ => 4 := by
  refine (h.list hm).mono fun as => ?_
  have hs : 0 ≤ (as.map k).sum := List.sum_nonneg fun x hx => by
    obtain ⟨a, _, rfl⟩ := List.mem_map.mp hx
    exact hk a
  omega

theorem Spares.keyMap [DecidableEq α] {x y : Int} (hc : c.Spares fun _ => x) (hd : d.Spares fun _ => y)
    (hm : (c.pair d).Measured) : (Codec.keyMap c d).Spares fun m => 4 + m.size * (x + y) := by
  refine ((hc.pair hd).list hm).imap.mono fun m => ?_
  rw [List.map_const', List.sum_replicate, nsmul_eq_mul, KeyMap.size]

end Lists

end Codec

namespace Choice

variable {α β : Type} {c : Choice α} {d : Choice β} {k : α → Int} {l : β → Int}

-- The same for what is written after a number of the choice.
def Spares (c : Choice α) (k : α → Int) : Prop :=
  ∀ a, c.size .binary a ≤ Frame.maxSize → c.size .compact a + k a ≤ c.size .binary a

theorem only_spares {c : Codec α} (h : c.Spares k) : (only c).Spares k := h

theorem Spares.or (hc : c.Spares k) (hd : d.Spares l) : (c.or d).Spares (Sum.elim k l)
  | .inl a => hc a
  | .inr b => hd b

theorem Spares.codec (h : c.Spares k) (hf : c.Faithful) (hc : c.count ≤ 128) : c.codec.Spares fun a => 3 + k a := by
  intro a hs
  simp only [Choice.codec] at hs ⊢
  have hi := Codec.variant_size_add_le c.count (Nat.lt_of_lt_of_le (hf.index_lt a) hc)
  have ha := h a (by omega)
  omega

end Choice

end Wire

open Wire Codec

theorem Endpoint.codec_spares : Endpoint.codec.Spares fun _ => 3 :=
  (text_spares.pair u16_spares).imap

theorem Status.codec_spares : Status.codec.Spares fun _ => -1 :=
  have message := text_spares.option fun _ => by decide
  have node := Endpoint.codec_spares.option fun _ => by decide
  (i32_spares.pair (message.pair node)).imap

theorem NodeLocation.codec_spares : NodeLocation.codec.Spares fun _ => 2 :=
  (i32_spares.pair Endpoint.codec_spares).imap

theorem NodeResource.codec_spares : NodeResource.codec.Spares fun _ => -3 :=
  (u32_spares.pair u64_spares).imap

theorem NodeConfiguration.codec_spares : NodeConfiguration.codec.Spares fun _ => -1 :=
  (NodeLocation.codec_spares.pair NodeResource.codec_spares).imap

theorem NodeVersion.codec_spares : NodeVersion.codec.Spares fun _ => 8 :=
  (text_spares.pair text_spares).imap

theorem Registration.codec_spares : Registration.codec.Spares fun _ => 11 :=
  (text_spares.pair (NodeConfiguration.codec_spares.pair NodeVersion.codec_spares)).imap

open Choice in
theorem ConfigRequest.codec_spares : ConfigRequest.codec.Spares fun _ => 0 := by
  have parts := (only_spares Registration.codec_spares).or <| (only_spares Registration.codec_spares).or <|
    (only_spares NodeLocation.codec_spares).or (only_spares i32_spares)
  refine (parts.codec choice_faithful (by decide)).imap.mono fun r => ?_
  cases r <;> simp [toSum]

namespace ConfigResponse

-- The configurations that a response lists, if it is of the kind that lists them.
def configurations? : ConfigResponse → Option (KeyMap NodeId NodeConfiguration)
  | configuration _ m => some m
  | _                 => none

open Choice in
theorem codec_spares : codec.Spares fun r => -2 * (r.configurations?.elim 0 KeyMap.size : Nat) := by
  have status := Status.codec_spares
  have members := Endpoint.codec_spares.list_of_nonneg Endpoint.codec_faithful.toMeasured fun _ => by decide
  have configurations := i32_spares.keyMap NodeConfiguration.codec_spares
    (i32_faithful.pair NodeConfiguration.codec_faithful).toMeasured
  have parts := (only_spares (status.pair (members.pair i32_spares))).or <| (only_spares (status.pair members)).or <|
    (only_spares status).or (only_spares (status.pair configurations))
  refine (parts.codec choice_faithful (by decide)).imap.mono fun r => ?_
  cases r <;> simp only [toParts, configurations?, Sum.elim_inl, Sum.elim_inr, Option.elim] <;> omega

end ConfigResponse

open Choice in
theorem DataRequest.codec_spares : DataRequest.codec.Spares fun _ => 0 := by
  have parts := (only_spares (text_spares.pair (u32_spares.pair u64_spares))).or
    (only_spares (i64_spares.pair u32_spares))
  refine (parts.codec choice_faithful (by decide)).imap.mono fun r => ?_
  cases r <;> simp [toSum]

theorem ColumnType.codec_spares : ColumnType.codec.Spares fun _ => 3 := by
  intro t _
  have hv := variant_size_add_le 6 (Nat.lt_of_lt_of_le t.index_lt (by decide))
  simp only [codec, Codec.imap]
  omega

theorem RawRow.codec_spares : RawRow.codec.Spares fun _ => 2 :=
  have cell := bytes_spares.option fun _ => by decide
  (i64_spares.pair (cell.list_of_nonneg bytes_faithful.option.toMeasured fun _ => Int.le_refl _)).imap

theorem FirstPage.codec_spares : FirstPage.codec.Spares fun _ => 0 := by
  have names := text_spares.list_of_nonneg text_faithful.toMeasured fun _ => by decide
  have types := ColumnType.codec_spares.list_of_nonneg ColumnType.codec_faithful.toMeasured fun _ => by decide
  have index := text_spares.keyMap u64_spares (text_faithful.pair u64_faithful).toMeasured
  have rows := RawRow.codec_spares.list_of_nonneg RawRow.codec_faithful.toMeasured fun _ => by decide
  refine (Status.codec_spares.pair <| i64_spares.pair <| names.pair <| types.pair <| index.pair <|
    rows.pair bit_spares).imap.mono fun page => ?_
  dsimp only
  omega

theorem NextPage.codec_spares : NextPage.codec.Spares fun _ => 3 :=
  have rows := RawRow.codec_spares.list_of_nonneg RawRow.codec_faithful.toMeasured fun _ => by decide
  (Status.codec_spares.pair (rows.pair bit_spares)).imap

open Choice in
theorem DataResponse.codec_spares : DataResponse.codec.Spares fun _ => 0 := by
  have faithful := (only_faithful FirstPage.codec_faithful).or (only_faithful NextPage.codec_faithful)
  have pages := (only_spares FirstPage.codec_spares).or (only_spares NextPage.codec_spares)
  refine (pages.codec faithful (by decide)).imap.mono fun r => ?_
  cases r <;> simp [toSum]

namespace MessageKind

-- The configurations that a message lists, if it is of the kind that lists them.
def configurations? : (kind : MessageKind) → kind.Message → Option (KeyMap NodeId NodeConfiguration)
  | configResponse, r => r.configurations?
  | configRequest, _ | dataRequest, _ | dataResponse, _ => none

theorem codec_spares : (kind : MessageKind) →
    kind.codec.Spares fun message => -2 * ((kind.configurations? message).elim 0 KeyMap.size : Nat)
  | configRequest  => ConfigRequest.codec_spares
  | configResponse => ConfigResponse.codec_spares
  | dataRequest    => DataRequest.codec_spares
  | dataResponse   => DataResponse.codec_spares

end MessageKind

namespace Wire.Frame

-- What can be sent in the binary format can be sent in the compact one and is no longer, unless it lists the
-- configurations of nodes. Then it is longer by two bytes for each of them at most.
theorem compact_no_longer (kind : MessageKind) (id : UInt32) (message : kind.Message) {bytes : Bytes}
    (h : encode kind.codec { format := .binary, id, message } = .ok bytes) :
    match kind.configurations? message with
    | none   => ∃ bytes', encode kind.codec { format := .compact, id, message } = .ok bytes' ∧
        bytes'.length ≤ bytes.length
    | some m => (header .compact id ++ kind.codec.put .compact message).length ≤ bytes.length + 2 * m.size := by
  have hm := kind.codec_faithful.toMeasured
  obtain ⟨rfl, hs⟩ := bytes_of_encode h
  rw [length_bytes hm]
  simp only [size] at hs ⊢
  have hc := kind.codec_spares message (by omega)
  cases hk : kind.configurations? message <;> simp only [hk, Option.elim] at hc ⊢
  case none =>
    have hl : size kind.codec { format := .compact, id, message } ≤ maxSize := by
      simp only [size]
      omega
    refine ⟨_, by rw [encode_eq, if_neg (Nat.not_lt.mpr hl)], ?_⟩
    rw [length_bytes hm]
    simp only [size]
    omega
  case some m =>
    rw [List.length_append, length_header, hm.length_put]
    omega

-- The largest numbers of a request for a page, where nothing is spared, and the configuration of one node.
theorem compact_no_longer_at_worst :
    let request : DataRequest := .fetchMoreData (-9223372036854775808) 4294967295
    let page : Bytes := [0, 0, 0, 0, 7, 1, 0, 0, 0, 0, 0, 0, 0, 0, 0, 0, 0x80, 0xFF, 0xFF, 0xFF, 0xFF]
    let page' : Bytes := [1, 0, 0, 0, 7, 1, 0xFF, 0xFF, 0xFF, 0xFF, 0xFF, 0xFF, 0xFF, 0xFF, 0xFF, 1, 0xFF, 0xFF, 0xFF,
      0xFF, 0xF]
    let node : NodeConfiguration := { location := .unregistered ⟨"", 65535⟩ }
    let response : ConfigResponse := .configuration .success ⟨[(-1, node)], by decide⟩
    encode DataRequest.codec { format := .binary, id := 7, message := request } = .ok page ∧
      encode DataRequest.codec { format := .compact, id := 7, message := request } = .ok page' ∧
      page'.length ≤ page.length ∧
      ∃ bytes, encode ConfigResponse.codec { format := .binary, id := 7, message := response } = .ok bytes ∧
        (header .compact 7 ++ ConfigResponse.codec.put .compact response).length ≤ bytes.length + 2 := by
  intro request page page' node response
  have hp : encode DataRequest.codec { format := .binary, id := 7, message := request } = .ok page := by decide +kernel
  have hp' : encode DataRequest.codec { format := .compact, id := 7, message := request } = .ok page' := by
    decide +kernel
  have ⟨_, he, hl⟩ := compact_no_longer .dataRequest 7 request hp
  cases hp'.symm.trans he
  have hs : Frame.size ConfigResponse.codec { format := .binary, id := 7, message := response } ≤ maxSize := by
    decide +kernel
  have hr := encode_eq (c := ConfigResponse.codec) { format := .binary, id := 7, message := response }
  rw [if_neg (Nat.not_lt.mpr hs)] at hr
  exact ⟨hp, hp', hl, _, hr, compact_no_longer .configResponse 7 response hr⟩

end Wire.Frame

end ClusterClient
