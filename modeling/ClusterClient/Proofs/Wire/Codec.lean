import ClusterClient.Proofs.Wire.Number
import ClusterClient.Wire.Codec
import Mathlib

namespace ClusterClient.Wire

namespace Codec

variable {α β : Type} {c : Codec α} {d : Codec β} {f : Format}

-- A written value is read back, and what follows it is left untouched.
def Reads (c : Codec α) (f : Format) (a : α) : Prop :=
  ∀ rest, c.take f (c.put f a ++ rest) = .ok (a, rest)

structure Measured (c : Codec α) : Prop where
  length_put : ∀ f a, (c.put f a).length = c.size f a
  size_pos   : ∀ f a, 0 < c.size f a

-- Lengths are written in 64 bits, so that nothing can be said of values beyond that size.
structure Faithful (c : Codec α) : Prop extends Measured c where
  reads : ∀ {f a}, c.size f a < UInt64.size → c.Reads f a

namespace Reads

theorem imap {wrap : α → β} {unwrap : β → α} {b : β} (h : c.Reads f (unwrap b))
    (hw : wrap (unwrap b) = b) : (c.imap wrap unwrap).Reads f b := by
  intro rest
  simp only [Codec.imap, h rest]
  exact congrArg (fun b => Except.ok (b, rest)) hw

theorem pair {a : α} {b : β} (ha : c.Reads f a) (hb : d.Reads f b) : (c.pair d).Reads f (a, b) := by
  intro rest
  simp only [Codec.pair, List.append_assoc, ha (d.put f b ++ rest), bind, Except.bind, hb rest]
  rfl

theorem takeMany {as : List α} (h : ∀ a ∈ as, c.Reads f a) (rest : Bytes) :
    Codec.takeMany c f as.length (as.flatMap (c.put f) ++ rest) = .ok (as, rest) := by
  induction as
  case nil => rfl
  case cons a as hi =>
    have ha := h a List.mem_cons_self
    have hi := hi fun b hb => h b (List.mem_cons_of_mem a hb)
    simp only [List.length_cons, List.flatMap_cons, List.append_assoc, Codec.takeMany, ha _, bind,
      Except.bind, hi]
    rfl

end Reads

section Numbers

theorem unsigned_measured (w : Width) : (unsigned w).Measured where
  length_put
    | .binary, n  => length_putFixed w.bytes n
    | .compact, n => length_putGroups w.groups n
  size_pos
    | .binary, _  => w.bytes_pos
    | .compact, n => by
      have ⟨k, hk⟩ := Nat.exists_eq_succ_of_ne_zero (Nat.ne_of_gt w.groups_pos)
      simpa only [unsigned, hk] using sizeGroups_pos k n

theorem unsigned_reads {w : Width} {n : Nat} (h : n < w.modulus) : (unsigned w).Reads f n := by
  intro rest
  cases f
  case binary =>
    rw [w.modulus_eq_bytes] at h
    simp only [unsigned, takeFixed_putFixed, Nat.mod_eq_of_lt h]
  case compact =>
    rw [w.modulus_eq_groups] at h
    have ht := takeGroups_putGroups w.topGroup_lt h rest
    rwa [Nat.sub_add_cancel w.groups_pos] at ht

theorem Measured.imap (h : c.Measured) (wrap : α → β) (unwrap : β → α) :
    (c.imap wrap unwrap).Measured where
  length_put f b := h.length_put f (unwrap b)
  size_pos f b := h.size_pos f (unwrap b)

theorem u16_faithful : u16.Faithful where
  toMeasured := (unsigned_measured .w16).imap ..
  reads {f n} _ := (unsigned_reads n.toNat_lt).imap (f := f) UInt16.ofNat_toNat

theorem u32_faithful : u32.Faithful where
  toMeasured := (unsigned_measured .w32).imap ..
  reads {f n} _ := (unsigned_reads n.toNat_lt).imap (f := f) UInt32.ofNat_toNat

theorem u64_faithful : u64.Faithful where
  toMeasured := (unsigned_measured .w64).imap ..
  reads {f n} _ := (unsigned_reads n.toNat_lt).imap (f := f) UInt64.ofNat_toNat

theorem signed_measured (w : Width) : (signed w).Measured where
  length_put f i := (unsigned_measured w).length_put f (signed.image w f i)
  size_pos f i := (unsigned_measured w).size_pos f (signed.image w f i)

-- The signed numbers of a width are those from `-n` up to, but not including, `n`.
theorem signed_image_lt {w : Width} {i : Int} {n : Nat} (hw : w.modulus = 2 * n) (hl : -n ≤ i)
    (hu : i < n) : signed.image w f i < w.modulus := by
  cases f <;> simp only [signed.image]
  case binary =>
    have hp : (0 : Int) < w.modulus := by omega
    have hm := i.emod_lt_of_pos hp
    exact (Int.toNat_lt (i.emod_nonneg (Int.ne_of_gt hp))).mpr hm
  case compact => exact hw ▸ zigzag_lt hl hu

theorem signed_preimage_image {w : Width} {i : Int} {n : Nat} (hw : w.modulus = 2 * n)
    (hl : -n ≤ i) (hu : i < n) : signed.preimage w f (signed.image w f i) = i := by
  cases f <;> simp only [signed.image, signed.preimage]
  case binary =>
    have hp : (0 : Int) < w.modulus := by omega
    rw [Int.toNat_of_nonneg (i.emod_nonneg (Int.ne_of_gt hp)), Int.emod_bmod]
    exact Int.bmod_eq_of_le_mul_two (by omega) (by omega)
  case compact => exact unzigzag_zigzag i

theorem signed_reads {w : Width} {i : Int} {n : Nat} (hw : w.modulus = 2 * n) (hl : -n ≤ i)
    (hu : i < n) : (signed w).Reads f i := by
  intro rest
  simp only [signed, unsigned_reads (signed_image_lt hw hl hu) rest, bind, Except.bind,
    signed_preimage_image hw hl hu]
  rfl

theorem i32_faithful : i32.Faithful where
  toMeasured := (signed_measured .w32).imap ..
  reads {_ i} _ := (signed_reads (n := 2 ^ 31) rfl i.le_toInt i.toInt_lt).imap i.ofInt_toInt

theorem i64_faithful : i64.Faithful where
  toMeasured := (signed_measured .w64).imap ..
  reads {_ i} _ := (signed_reads (n := 2 ^ 63) rfl i.le_toInt i.toInt_lt).imap i.ofInt_toInt

end Numbers

theorem Faithful.imap (h : c.Faithful) {wrap : α → β} {unwrap : β → α}
    (hw : ∀ b, wrap (unwrap b) = b) : (c.imap wrap unwrap).Faithful where
  toMeasured := h.toMeasured.imap wrap unwrap
  reads {_ b} hs := (h.reads hs).imap (hw b)

theorem Faithful.pair (hc : c.Faithful) (hd : d.Faithful) : (c.pair d).Faithful where
  length_put f ab := by simp [Codec.pair, hc.length_put, hd.length_put]
  size_pos f ab := Nat.add_pos_left (hc.size_pos f ab.1) _
  reads {f ab} hs := by
    have ⟨a, b⟩ := ab
    simp only [Codec.pair] at hs
    exact (hc.reads (by omega)).pair (hd.reads (by omega))

section Texts

theorem takeContents_append (bs rest : Bytes) :
    takeContents f bs.length (bs ++ rest) = .ok (bs, rest) := by
  simp [takeContents]

namespace Reads

theorem bytes {bs : Bytes} (h : bs.length < UInt64.size) : Codec.bytes.Reads f bs := by
  intro rest
  simp only [Codec.bytes, List.append_assoc, unsigned_reads (w := .w64) h (bs ++ rest), bind, Except.bind,
    takeContents_append]

theorem text {s : String} (h : s.utf8ByteSize < UInt64.size) : Codec.text.Reads f s := by
  intro rest
  have hr : Codec.bytes.Reads f (Utf8.encode s) := .bytes h
  have hd := Utf8.decode_eq_ok_iff.mpr (Eq.refl (Utf8.encode s))
  simp only [Codec.text, hr rest, bind, Except.bind, hd]

theorem bit {bad : UInt8 → Fault} {compactBad : Fault} {b : Bool} : (Codec.bit bad compactBad).Reads f b := by
  intro rest
  cases f <;> cases b <;> rfl

theorem option {a : Option α} (h : ∀ b ∈ a, c.Reads f b) : c.option.Reads f a := by
  intro rest
  have hp (b : Bool) : (Codec.bit .optionByte .compactOption).Reads f b := .bit
  cases a
  case none =>
    simp only [Codec.option, option.presence, hp false rest, bind, Except.bind]
    rfl
  case some a =>
    simp only [Codec.option, option.presence, List.append_assoc, hp true (c.put f a ++ rest), bind,
      Except.bind, h a rfl rest]
    rfl

end Reads

theorem bytes_faithful : bytes.Faithful where
  length_put f bs := by simp [bytes, (unsigned_measured .w64).length_put]
  size_pos f bs := Nat.add_pos_left ((unsigned_measured .w64).size_pos f bs.length) _
  reads hs := .bytes (Nat.lt_of_le_of_lt (Nat.le_add_left ..) hs)

theorem text_faithful : text.Faithful where
  length_put f s := bytes_faithful.length_put f (Utf8.encode s)
  size_pos f s := bytes_faithful.size_pos f (Utf8.encode s)
  reads hs := .text (Nat.lt_of_le_of_lt (Nat.le_add_left ..) hs)

theorem bit_faithful (bad : UInt8 → Fault) (compactBad : Fault) : (bit bad compactBad).Faithful where
  length_put _ _ := rfl
  size_pos _ _ := Nat.one_pos
  reads _ := .bit

end Texts

theorem Faithful.option (h : c.Faithful) : c.option.Faithful where
  length_put
    | _, none   => rfl
    | f, some a => by simp [Codec.option, option.presence, bit, h.length_put, Nat.add_comm]
  size_pos
    | _, none   => Nat.one_pos
    | _, some _ => Nat.add_pos_left Nat.one_pos _
  reads hs := by
    refine .option fun b hb => ?_
    cases hb
    exact h.reads (Nat.lt_of_le_of_lt (Nat.le_add_left ..) hs)

section Lists

theorem length_flatMap_put (h : c.Measured) (as : List α) :
    (as.flatMap (c.put f)).length = sizeMany c f as := by
  induction as
  case nil => rfl
  case cons a as hi => simp [sizeMany, h.length_put, hi]

theorem length_le_sizeMany (h : c.Measured) (as : List α) : as.length ≤ sizeMany c f as := by
  induction as
  case nil => exact Nat.zero_le _
  case cons a as hi =>
    have := h.size_pos f a
    simp only [List.length_cons, sizeMany]
    omega

theorem size_le_sizeMany {a : α} {as : List α} (h : a ∈ as) : c.size f a ≤ sizeMany c f as := by
  induction h
  case head as       => exact Nat.le_add_right ..
  case tail b _ _ hi => exact hi.trans (Nat.le_add_left ..)

theorem Reads.list {as : List α} (hl : as.length < UInt64.size) (h : ∀ a ∈ as, c.Reads f a) :
    c.list.Reads f as := by
  intro rest
  simp only [Codec.list, List.append_assoc, unsigned_reads (w := .w64) hl (_ ++ rest), bind, Except.bind,
    Reads.takeMany h rest]

theorem Faithful.list (h : c.Faithful) : c.list.Faithful where
  length_put f as := by
    simp only [Codec.list, List.length_append, length_flatMap_put h.toMeasured,
      (unsigned_measured .w64).length_put]
  size_pos f as := Nat.add_pos_left ((unsigned_measured .w64).size_pos f as.length) _
  reads {f as} hs := by
    have hm : sizeMany c f as < UInt64.size := Nat.lt_of_le_of_lt (Nat.le_add_left ..) hs
    have hl : as.length < UInt64.size := Nat.lt_of_le_of_lt (length_le_sizeMany h.toMeasured as) hm
    exact .list hl fun a ha => h.reads (Nat.lt_of_le_of_lt (size_le_sizeMany ha) hm)

-- A map comes back with its entries in the order in which they were written.
theorem Faithful.keyMap [DecidableEq α] (hc : c.Faithful) (hd : d.Faithful) :
    (Codec.keyMap c d).Faithful :=
  (hc.pair hd).list.imap KeyMap.ofList_entries

end Lists

theorem variant_measured (count : Nat) : (variant count).Measured where
  length_put := (unsigned_measured .w32).length_put
  size_pos := (unsigned_measured .w32).size_pos

theorem variant_reads {count i : Nat} (hc : count ≤ UInt32.size) (hi : i < count) :
    (variant count).Reads f i := by
  intro rest
  have hr := unsigned_reads (f := f) (w := .w32) (Nat.lt_of_lt_of_le hi hc) rest
  simp only [variant, hr, bind, Except.bind, hi, if_true]
  rfl

end Codec

namespace Choice

variable {α β : Type}

structure Faithful (c : Choice α) : Prop where
  index_lt   : ∀ a, c.index a < c.count
  length_put : ∀ f a, (c.put f a).length = c.size f a
  reads      : ∀ {f a}, c.size f a < UInt64.size →
                ∀ rest, c.take f (c.index a) (c.put f a ++ rest) = .ok (a, rest)

theorem only_faithful {c : Codec α} (h : c.Faithful) : (only c).Faithful where
  index_lt _ := Nat.one_pos
  length_put := h.length_put
  reads hs := h.reads hs

variable {c : Choice α} {d : Choice β}

theorem Faithful.or (hc : c.Faithful) (hd : d.Faithful) : (c.or d).Faithful where
  index_lt
    | .inl a => Nat.lt_add_right _ (hc.index_lt a)
    | .inr b => Nat.add_lt_add_left (hd.index_lt b) _
  length_put
    | f, .inl a => hc.length_put f a
    | f, .inr b => hd.length_put f b
  reads {f ab} hs rest := by
    cases ab <;> simp only [Choice.or]
    case inl a =>
      simp only [hc.index_lt a, if_true, hc.reads hs rest, bind, Except.bind]
      rfl
    case inr b =>
      have hn : ¬ c.count + d.index b < c.count := by omega
      simp only [hn, if_false, Nat.add_sub_cancel_left, hd.reads hs rest, bind, Except.bind]
      rfl

theorem codec_reads {f : Format} {a : α} (hc : c.count ≤ UInt32.size) (hi : c.index a < c.count)
    (h : ∀ rest, c.take f (c.index a) (c.put f a ++ rest) = .ok (a, rest)) : c.codec.Reads f a := by
  intro rest
  have hv := Codec.variant_reads (f := f) hc hi
  simp only [Choice.codec, List.append_assoc, hv (c.put f a ++ rest), bind, Except.bind, h rest]

theorem Faithful.codec (h : c.Faithful) (hc : c.count ≤ UInt32.size) : c.codec.Faithful where
  length_put f a := by
    simp [Choice.codec, (Codec.variant_measured c.count).length_put, h.length_put]
  size_pos f a := Nat.add_pos_left ((Codec.variant_measured c.count).size_pos f (c.index a)) _
  reads {_ a} hs := codec_reads hc (h.index_lt a) (h.reads (Nat.lt_of_le_of_lt (Nat.le_add_left ..) hs))

end Choice

end ClusterClient.Wire
