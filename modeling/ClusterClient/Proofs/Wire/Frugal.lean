import ClusterClient.Proofs.Wire.Codec
import Mathlib

namespace ClusterClient

namespace KeyMap

variable {κ α : Type} [DecidableEq κ]

-- Two listings of the same map.
def Same (m m' : KeyMap κ α) : Prop :=
  ∀ k, m.get? k = m'.get? k

theorem same_of_perm {m m' : KeyMap κ α} (h : m.entries.Perm m'.entries) : m.Same m' := by
  intro k
  ext a
  rw [get?_eq_some_iff, get?_eq_some_iff, h.mem_iff]

-- However a map is listed, it lists no more than the entries that it was made from.
theorem Same.subperm {es : List (κ × α)} {m : KeyMap κ α} (h : (ofList es).Same m) :
    m.entries.Subperm es := by
  refine List.subperm_of_subset m.nodup.of_map fun e he => ?_
  have hg : (ofList es).get? e.1 = some e.2 := (h e.1).trans (get?_eq_some_iff.mpr he)
  exact mem_of_mem_ofList (get?_eq_some_iff.mp hg)

end KeyMap

namespace Wire

namespace Codec

variable {α β : Type} {c : Codec α} {d : Codec β} {f : Format} {bs rest : Bytes}

section Taken

-- What has been read by the parts of a codec if the whole has read something.

theorem take_imap {wrap : α → β} {unwrap : β → α} {b : β}
    (h : (c.imap wrap unwrap).take f bs = .ok (b, rest)) : ∃ a, c.take f bs = .ok (a, rest) ∧ wrap a = b := by
  have ⟨⟨a, _⟩, ha, hb⟩ := bind_eq_ok_iff.mp h
  cases hb
  exact ⟨a, ha, rfl⟩

theorem take_pair {ab : α × β} (h : (c.pair d).take f bs = .ok (ab, rest)) :
    ∃ rest', c.take f bs = .ok (ab.1, rest') ∧ d.take f rest' = .ok (ab.2, rest) := by
  have ⟨⟨a, rest'⟩, ha, h⟩ := bind_eq_ok_iff.mp h
  have ⟨⟨b, _⟩, hb, h⟩ := bind_eq_ok_iff.mp h
  cases h
  exact ⟨rest', ha, hb⟩

theorem take_signed {w : Width} {i : Int} (h : (signed w).take f bs = .ok (i, rest)) :
    ∃ n, (unsigned w).take f bs = .ok (n, rest) ∧ signed.preimage w f n = i := by
  have ⟨⟨n, _⟩, hn, h⟩ := bind_eq_ok_iff.mp h
  cases h
  exact ⟨n, hn, rfl⟩

theorem take_bytes {contents : Bytes} (h : bytes.take f bs = .ok (contents, rest)) :
    (unsigned .w64).take f bs = .ok (contents.length, contents ++ rest) := by
  have ⟨⟨n, rest'⟩, hn, h⟩ := bind_eq_ok_iff.mp h
  simp only [takeContents, List.splitAt_eq] at h
  split at h
  case isFalse => cases f <;> contradiction
  case isTrue hl =>
    cases h
    rw [List.take_append_drop, List.length_take, Nat.min_eq_left hl]
    exact hn

theorem take_text {s : String} (h : text.take f bs = .ok (s, rest)) :
    bytes.take f bs = .ok (Utf8.encode s, rest) := by
  have ⟨⟨contents, rest'⟩, hc, h⟩ := bind_eq_ok_iff.mp h
  cases hd : Utf8.decode contents <;> simp only [hd] at h
  case error => cases f <;> contradiction
  case ok =>
    cases h
    rwa [Utf8.decode_eq_ok_iff.mp hd]

theorem take_bit {bad : UInt8 → Fault} {compactBad : Fault} {b : Bool}
    (h : (bit bad compactBad).take f bs = .ok (b, rest)) : (bit bad compactBad).put f b ++ rest = bs := by
  cases bs
  case nil => cases f <;> contradiction
  case cons x bs =>
    simp only [bit] at h
    split at h
    case isTrue hx => cases h; rw [hx]; rfl
    case isFalse =>
      split at h
      case isTrue hx => cases h; rw [hx]; rfl
      case isFalse => cases f <;> contradiction

theorem take_option {a : Option α} (h : c.option.take f bs = .ok (a, rest)) :
    (a = none ∧ option.presence.take f bs = .ok (false, rest)) ∨
    (∃ b rest', a = some b ∧ option.presence.take f bs = .ok (true, rest') ∧
      c.take f rest' = .ok (b, rest)) := by
  have ⟨⟨present, rest'⟩, hp, h⟩ := bind_eq_ok_iff.mp h
  cases present
  case false =>
    cases h
    exact .inl ⟨rfl, hp⟩
  case true =>
    have ⟨⟨b, _⟩, hb, h⟩ := bind_eq_ok_iff.mp h
    cases h
    exact .inr ⟨b, rest', rfl, hp, hb⟩

theorem takeMany_succ {n : Nat} {as : List α} (h : takeMany c f (n + 1) bs = .ok (as, rest)) :
    ∃ a as' rest', c.take f bs = .ok (a, rest') ∧ takeMany c f n rest' = .ok (as', rest) ∧ as = a :: as' := by
  have ⟨⟨a, rest'⟩, ha, h⟩ := bind_eq_ok_iff.mp h
  have ⟨⟨as', _⟩, hm, h⟩ := bind_eq_ok_iff.mp h
  cases h
  exact ⟨a, as', rest', ha, hm, rfl⟩

theorem length_of_takeMany {n : Nat} {as : List α} (h : takeMany c f n bs = .ok (as, rest)) :
    as.length = n := by
  induction n generalizing bs as
  case zero => cases h; rfl
  case succ n hi =>
    obtain ⟨_, _, _, _, hm, rfl⟩ := takeMany_succ h
    exact congrArg (· + 1) (hi hm)

theorem take_list {as : List α} (h : c.list.take f bs = .ok (as, rest)) :
    ∃ rest', (unsigned .w64).take f bs = .ok (as.length, rest') ∧
      takeMany c f as.length rest' = .ok (as, rest) := by
  have ⟨⟨n, rest'⟩, hn, hm⟩ := bind_eq_ok_iff.mp h
  cases length_of_takeMany hm
  exact ⟨rest', hn, hm⟩

theorem take_variant {count i : Nat} (h : (variant count).take f bs = .ok (i, rest)) :
    i < count ∧ (unsigned .w32).take f bs = .ok (i, rest) := by
  have ⟨⟨n, rest'⟩, hn, h⟩ := bind_eq_ok_iff.mp h
  simp only at h
  split at h
  case isFalse => cases f <;> contradiction
  case isTrue hi =>
    cases h
    exact ⟨hi, hn⟩

end Taken

variable {same : α → α → Prop} {plain : α → Prop} {same' : β → β → Prop} {plain' : β → Prop}

-- A value may be written as any value that is the same. A plain value leaves no choice in the binary
-- format.
structure Frugal (c : Codec α) (same : α → α → Prop) (plain : α → Prop) : Prop where
  reads      : ∀ {f bs a rest a'}, c.take f bs = .ok (a, rest) → same a a' → c.Reads f a'
  size_le    : ∀ {f bs a rest a'}, c.take f bs = .ok (a, rest) → same a a' →
                c.size f a' + rest.length ≤ bs.length
  put_append : ∀ {bs a rest}, c.take .binary bs = .ok (a, rest) → plain a → c.put .binary a ++ rest = bs

-- Without maps, a value is only the same as itself.
abbrev Canonical (c : Codec α) : Prop := c.Frugal Eq fun _ => True

namespace Frugal

-- The change of dress has to be undone only on values that were read: not every natural number fits into the
-- width of a number type, but those that were read do.
theorem imap (h : c.Frugal same plain) {wrap : α → β} {unwrap : β → α} (hw : ∀ b, wrap (unwrap b) = b)
    (hs : ∀ {f bs a rest}, c.take f bs = .ok (a, rest) → ∀ {b}, same' (wrap a) b → same a (unwrap b))
    (hp : ∀ {f bs a rest}, c.take f bs = .ok (a, rest) → plain' (wrap a) → plain a ∧ unwrap (wrap a) = a) :
    (c.imap wrap unwrap).Frugal same' plain' where
  reads ht hb := by
    have ⟨_, ha, hab⟩ := take_imap ht
    cases hab
    exact (h.reads ha (hs ha hb)).imap (hw _)
  size_le ht hb := by
    have ⟨_, ha, hab⟩ := take_imap ht
    cases hab
    exact h.size_le ha (hs ha hb)
  put_append ht hb := by
    have ⟨_, ha, hab⟩ := take_imap ht
    cases hab
    have ⟨hpa, hu⟩ := hp ha hb
    simp only [Codec.imap, hu]
    exact h.put_append ha hpa

theorem pair (hc : c.Frugal same plain) (hd : d.Frugal same' plain') :
    (c.pair d).Frugal (fun ab ab' => same ab.1 ab'.1 ∧ same' ab.2 ab'.2)
      (fun ab => plain ab.1 ∧ plain' ab.2) where
  reads ht hs := by
    obtain ⟨_, ha, hb⟩ := take_pair ht
    exact (hc.reads ha hs.left).pair (hd.reads hb hs.right)
  size_le ht hs := by
    obtain ⟨_, ha, hb⟩ := take_pair ht
    have hla := hc.size_le ha hs.left
    have hlb := hd.size_le hb hs.right
    simp only [Codec.pair]
    omega
  put_append ht hp := by
    obtain ⟨_, ha, hb⟩ := take_pair ht
    rw [Codec.pair, List.append_assoc, hd.put_append hb hp.right, hc.put_append ha hp.left]

-- It is enough to look at fewer values that are the same, and at fewer plain values.
theorem mono (h : c.Frugal same plain) {same₁ : α → α → Prop} {plain₁ : α → Prop}
    (hs : ∀ {a a'}, same₁ a a' → same a a') (hp : ∀ {a}, plain₁ a → plain a) : c.Frugal same₁ plain₁ where
  reads ht ha := h.reads ht (hs ha)
  size_le ht ha := h.size_le ht (hs ha)
  put_append ht ha := h.put_append ht (hp ha)

end Frugal

namespace Canonical

theorem imap (h : c.Canonical) {wrap : α → β} {unwrap : β → α} (hw : ∀ b, wrap (unwrap b) = b)
    (hu : ∀ {f bs a rest}, c.take f bs = .ok (a, rest) → unwrap (wrap a) = a) :
    (c.imap wrap unwrap).Canonical :=
  Frugal.imap h hw (fun ha _ hb => hb ▸ (hu ha).symm) fun ha _ => ⟨trivial, hu ha⟩

theorem pair (hc : c.Canonical) (hd : d.Canonical) : (c.pair d).Canonical :=
  (Frugal.pair hc hd).mono (fun hs => hs ▸ ⟨rfl, rfl⟩) fun _ => ⟨trivial, trivial⟩

end Canonical

section Numbers

theorem unsigned_lt {w : Width} {n : Nat} (h : (unsigned w).take f bs = .ok (n, rest)) : n < w.modulus := by
  cases f
  case binary => exact w.modulus_eq_bytes ▸ (putFixed_of_takeFixed h).left
  case compact =>
    simp only [unsigned] at h
    rw [← Nat.sub_add_cancel w.groups_pos] at h
    exact w.modulus_eq_groups ▸ (sizeGroups_of_takeGroups h).left

theorem unsigned_size_le {w : Width} {n : Nat} (h : (unsigned w).take f bs = .ok (n, rest)) :
    (unsigned w).size f n + rest.length ≤ bs.length := by
  cases f
  case binary =>
    have hp := congrArg List.length (putFixed_of_takeFixed h).right
    rw [List.length_append, length_putFixed] at hp
    exact Nat.le_of_eq hp
  case compact =>
    have hw := Nat.sub_add_cancel w.groups_pos
    simp only [unsigned] at h ⊢
    rw [← hw] at h ⊢
    exact (sizeGroups_of_takeGroups h).right

theorem unsigned_size_le_size {w : Width} {m n : Nat} (h : m ≤ n) :
    (unsigned w).size f m ≤ (unsigned w).size f n := by
  cases f
  case binary  => exact Nat.le_refl _
  case compact => exact sizeGroups_le_sizeGroups w.groups h

theorem unsigned_canonical (w : Width) : (unsigned w).Canonical where
  reads h hs := hs ▸ unsigned_reads (unsigned_lt h)
  size_le h hs := hs ▸ unsigned_size_le h
  put_append h _ := (putFixed_of_takeFixed h).right

theorem u16_canonical : u16.Canonical :=
  (unsigned_canonical .w16).imap (fun _ => UInt16.ofNat_toNat) fun h =>
    UInt16.toNat_ofNat_of_lt' (unsigned_lt h)

theorem u32_canonical : u32.Canonical :=
  (unsigned_canonical .w32).imap (fun _ => UInt32.ofNat_toNat) fun h =>
    UInt32.toNat_ofNat_of_lt' (unsigned_lt h)

theorem u64_canonical : u64.Canonical :=
  (unsigned_canonical .w64).imap (fun _ => UInt64.ofNat_toNat) fun h =>
    UInt64.toNat_ofNat_of_lt' (unsigned_lt h)

theorem signed_image_preimage {w : Width} {n : Nat} (h : n < w.modulus) :
    signed.image w f (signed.preimage w f n) = n := by
  cases f <;> simp only [signed.image, signed.preimage]
  case binary =>
    rw [Int.bmod_emod, ← Int.natCast_mod, Nat.mod_eq_of_lt h]
    rfl
  case compact => exact zigzag_unzigzag n

theorem signed_mem {w : Width} {i : Int} {m : Nat} (hw : w.modulus = 2 * m)
    (h : (signed w).take f bs = .ok (i, rest)) : -(m : Int) ≤ i ∧ i < m := by
  have ⟨n, hn, hi⟩ := take_signed h
  have hlt := unsigned_lt hn
  cases f <;> simp only [signed.preimage] at hi
  case binary =>
    have hl := Int.le_bmod (x := n) (m := w.modulus) (by omega)
    have hu := Int.bmod_lt (x := n) (m := w.modulus) (by omega)
    omega
  case compact =>
    simp only [unzigzag] at hi
    split at hi <;> omega

theorem signed_canonical (w : Width) : (signed w).Canonical where
  reads {f} _ _ _ _ h hs rest := by
    obtain ⟨n, hn, hi⟩ := take_signed h
    have hr := unsigned_reads (f := f) (unsigned_lt hn) rest
    cases hs
    simp only [signed, ← hi, signed_image_preimage (unsigned_lt hn), hr, bind, Except.bind]
    rfl
  size_le h hs := by
    obtain ⟨n, hn, hi⟩ := take_signed h
    cases hs
    simp only [signed, ← hi, signed_image_preimage (unsigned_lt hn)]
    exact unsigned_size_le hn
  put_append h _ := by
    obtain ⟨n, hn, hi⟩ := take_signed h
    simp only [signed, ← hi, signed_image_preimage (unsigned_lt hn)]
    exact (unsigned_canonical w).put_append hn trivial

theorem i32_canonical : i32.Canonical :=
  (signed_canonical .w32).imap Int32.ofInt_toInt fun h =>
    have hi := signed_mem (m := 2 ^ 31) rfl h
    Int32.toInt_ofInt_of_le hi.left hi.right

theorem i64_canonical : i64.Canonical :=
  (signed_canonical .w64).imap Int64.ofInt_toInt fun h =>
    have hi := signed_mem (m := 2 ^ 63) rfl h
    Int64.toInt_ofInt_of_le hi.left hi.right

end Numbers

section Texts

theorem bytes_canonical : bytes.Canonical where
  reads h hs := hs ▸ .bytes (unsigned_lt (take_bytes h))
  size_le h hs := by
    have hl := unsigned_size_le (take_bytes h)
    rw [List.length_append] at hl
    cases hs
    simp only [bytes]
    omega
  put_append h _ := by
    rw [bytes, List.append_assoc]
    exact (unsigned_canonical .w64).put_append (take_bytes h) trivial

theorem text_canonical : text.Canonical where
  reads h hs := hs ▸ .text (unsigned_lt (take_bytes (take_text h)))
  size_le h hs := hs ▸ bytes_canonical.size_le (take_text h) rfl
  put_append h _ := bytes_canonical.put_append (take_text h) trivial

theorem bit_canonical (bad : UInt8 → Fault) (compactBad : Fault) : (bit bad compactBad).Canonical where
  reads _ _ := .bit
  size_le h hs := by
    rw [← take_bit h, List.length_append]
    exact Nat.le_refl _
  put_append h _ := take_bit h

end Texts

theorem Canonical.option (h : c.Canonical) : c.option.Canonical where
  reads ht hs := by
    cases hs
    refine .option fun b hb => ?_
    obtain ⟨rfl, _⟩ | ⟨_, _, rfl, _, hc⟩ := take_option ht <;> cases hb
    exact h.reads hc rfl
  size_le ht hs := by
    cases hs
    obtain ⟨rfl, hp⟩ | ⟨b, _, rfl, hp, hc⟩ := take_option ht
    case inl => exact (bit_canonical ..).size_le hp rfl
    case inr =>
      have hlp := (bit_canonical ..).size_le hp rfl
      have hlc := h.size_le hc rfl
      simp only [Codec.option, bit] at hlp ⊢
      omega
  put_append ht _ := by
    obtain ⟨rfl, hp⟩ | ⟨b, _, rfl, hp, hc⟩ := take_option ht
    case inl => exact take_bit hp
    case inr =>
      simp only [Codec.option]
      rw [List.append_assoc, h.put_append hc trivial]
      exact take_bit hp

section Lists

theorem takeMany_reads (h : c.Canonical) {n : Nat} {as : List α} (ht : takeMany c f n bs = .ok (as, rest)) :
    ∀ a ∈ as, c.Reads f a := by
  induction n generalizing bs as
  case zero => cases ht; exact fun _ => nofun
  case succ n hi =>
    obtain ⟨_, _, _, ha, hm, rfl⟩ := takeMany_succ ht
    exact List.forall_mem_cons.mpr ⟨h.reads ha rfl, hi hm⟩

theorem sizeMany_of_takeMany (h : c.Canonical) {n : Nat} {as : List α}
    (ht : takeMany c f n bs = .ok (as, rest)) : sizeMany c f as + rest.length ≤ bs.length := by
  induction n generalizing bs as
  case zero => cases ht; exact Nat.le_of_eq (Nat.zero_add _)
  case succ n hi =>
    obtain ⟨_, _, _, ha, hm, rfl⟩ := takeMany_succ ht
    have hla := h.size_le ha rfl
    have hlm := hi hm
    simp only [sizeMany]
    omega

theorem flatMap_put_of_takeMany (h : c.Canonical) {n : Nat} {as : List α}
    (ht : takeMany c .binary n bs = .ok (as, rest)) : as.flatMap (c.put .binary) ++ rest = bs := by
  induction n generalizing bs as
  case zero => cases ht; rfl
  case succ n hi =>
    obtain ⟨_, _, _, ha, hm, rfl⟩ := takeMany_succ ht
    rw [List.flatMap_cons, List.append_assoc, hi hm, h.put_append ha trivial]

theorem sizeMany_eq_sum (as : List α) : sizeMany c f as = (as.map (c.size f)).sum := by
  induction as
  case nil => rfl
  case cons a as hi => rw [sizeMany, hi, List.map_cons, List.sum_cons]

theorem sizeMany_le_of_subperm {as as' : List α} (h : as'.Subperm as) :
    sizeMany c f as' ≤ sizeMany c f as := by
  obtain ⟨l, hp, hs⟩ := h
  rw [sizeMany_eq_sum, sizeMany_eq_sum, ← (hp.map (c.size f)).sum_eq]
  exact (hs.map (c.size f)).sum_le_sum fun _ _ => Nat.zero_le _

-- With some of its values left out, and the others in any order, a list does not get longer.
theorem list_frugal (h : c.Canonical) : c.list.Frugal (fun as as' => as'.Subperm as) fun _ => True where
  reads ht hs := by
    obtain ⟨_, hn, hm⟩ := take_list ht
    exact .list (Nat.lt_of_le_of_lt hs.length_le (unsigned_lt hn)) fun a ha =>
      takeMany_reads h hm a (hs.subset ha)
  size_le {f} _ _ _ _ ht hs := by
    obtain ⟨_, hn, hm⟩ := take_list ht
    have hln := unsigned_size_le hn
    have hlm := sizeMany_of_takeMany h hm
    have hsn := unsigned_size_le_size (f := f) (w := .w64) hs.length_le
    have hsm := sizeMany_le_of_subperm (c := c) (f := f) hs
    simp only [Codec.list]
    omega
  put_append ht _ := by
    obtain ⟨_, hn, hm⟩ := take_list ht
    rw [Codec.list, List.append_assoc, flatMap_put_of_takeMany h hm]
    exact (unsigned_canonical .w64).put_append hn trivial

theorem Canonical.list (h : c.Canonical) : c.list.Canonical :=
  (list_frugal h).mono (fun hs => hs ▸ List.Subperm.refl _) id

-- The bytes of a map depend on the order in which it is listed.
theorem keyMap_frugal [DecidableEq α] (hc : c.Canonical) (hd : d.Canonical) :
    (keyMap c d).Frugal KeyMap.Same fun _ => False :=
  (list_frugal (hc.pair hd)).imap KeyMap.ofList_entries (fun _ _ hs => hs.subperm) fun _ => False.elim

end Lists

theorem variant_size_le {count i : Nat} (h : (variant count).take f bs = .ok (i, rest)) :
    (variant count).size f i + rest.length ≤ bs.length :=
  unsigned_size_le (take_variant h).right

theorem variant_put_append {count i : Nat} (h : (variant count).take .binary bs = .ok (i, rest)) :
    (variant count).put .binary i ++ rest = bs :=
  (unsigned_canonical .w32).put_append (take_variant h).right trivial

theorem variant_canonical {count : Nat} (hc : count ≤ UInt32.size) : (variant count).Canonical where
  reads h hs := hs ▸ variant_reads hc (take_variant h).left
  size_le h hs := hs ▸ variant_size_le h
  put_append h _ := variant_put_append h

end Codec

namespace Choice

variable {α β : Type}

-- What is read after a number of the choice.
structure Frugal (c : Choice α) (same : α → α → Prop) (plain : α → Prop) : Prop where
  index_eq   : ∀ {f i bs a rest}, c.take f i bs = .ok (a, rest) → i < c.count → c.index a = i
  index_same : ∀ {a a'}, same a a' → c.index a' = c.index a
  reads      : ∀ {f i bs a rest a'}, c.take f i bs = .ok (a, rest) → same a a' →
                ∀ rest, c.take f (c.index a') (c.put f a' ++ rest) = .ok (a', rest)
  size_le    : ∀ {f i bs a rest a'}, c.take f i bs = .ok (a, rest) → same a a' →
                c.size f a' + rest.length ≤ bs.length
  put_append : ∀ {i bs a rest}, c.take .binary i bs = .ok (a, rest) → plain a →
                c.put .binary a ++ rest = bs

theorem only_frugal {c : Codec α} {same : α → α → Prop} {plain : α → Prop} (h : c.Frugal same plain) :
    (only c).Frugal same plain where
  index_eq _ hi := (Nat.lt_one_iff.mp hi).symm
  index_same _ := rfl
  reads := h.reads
  size_le := h.size_le
  put_append := h.put_append

variable {c : Choice α} {d : Choice β} {same : α → α → Prop} {plain : α → Prop} {same' : β → β → Prop}
  {plain' : β → Prop} {f : Format} {bs rest : Bytes}

theorem take_or {i : Nat} {ab : α ⊕ β} (h : (c.or d).take f i bs = .ok (ab, rest)) :
    (∃ a, i < c.count ∧ c.take f i bs = .ok (a, rest) ∧ ab = .inl a) ∨
    (∃ b, c.count ≤ i ∧ d.take f (i - c.count) bs = .ok (b, rest) ∧ ab = .inr b) := by
  simp only [Choice.or] at h
  split at h <;> obtain ⟨⟨x, _⟩, hx, h⟩ := bind_eq_ok_iff.mp h <;> cases h
  case isTrue hi _  => exact .inl ⟨x, hi, hx, rfl⟩
  case isFalse hi _ => exact .inr ⟨x, Nat.not_lt.mp hi, hx, rfl⟩

theorem Frugal.or (hc : c.Frugal same plain) (hd : d.Frugal same' plain') :
    (c.or d).Frugal (Sum.LiftRel same same') (Sum.elim plain plain') where
  index_eq h hi := by
    obtain ⟨a, ha, ht, rfl⟩ | ⟨b, hb, ht, rfl⟩ := take_or h
    case inl => exact hc.index_eq ht ha
    case inr =>
      have he := hd.index_eq ht (Nat.sub_lt_left_of_lt_add hb hi)
      simp only [Choice.or]
      omega
  index_same
    | .inl hs => hc.index_same hs
    | .inr hs => congrArg (c.count + ·) (hd.index_same hs)
  reads h hs rest := by
    obtain ⟨a, ha, ht, rfl⟩ | ⟨b, _, ht, rfl⟩ := take_or h <;> cases hs <;> simp only [Choice.or]
    case inl.inl a' hs =>
      have hi : c.index a' < c.count := by rwa [hc.index_same hs, hc.index_eq ht ha]
      simp only [hi, if_true, hc.reads ht hs rest]
      rfl
    case inr.inr b' hs =>
      have hn : ¬ c.count + d.index b' < c.count := by omega
      simp only [hn, if_false, Nat.add_sub_cancel_left, hd.reads ht hs rest]
      rfl
  size_le h hs := by
    obtain ⟨a, _, ht, rfl⟩ | ⟨b, _, ht, rfl⟩ := take_or h <;> cases hs
    case inl.inl hs => exact hc.size_le ht hs
    case inr.inr hs => exact hd.size_le ht hs
  put_append h hp := by
    obtain ⟨a, _, ht, rfl⟩ | ⟨b, _, ht, rfl⟩ := take_or h
    case inl => exact hc.put_append ht hp
    case inr => exact hd.put_append ht hp

abbrev Canonical (c : Choice α) : Prop := c.Frugal Eq fun _ => True

theorem only_canonical {c : Codec α} (h : c.Canonical) : (only c).Canonical :=
  only_frugal h

theorem Canonical.or (hc : c.Canonical) (hd : d.Canonical) : (c.or d).Canonical where
  index_eq := (Frugal.or hc hd).index_eq
  index_same hs := hs ▸ rfl
  reads ht hs := (Frugal.or hc hd).reads ht (hs ▸ Sum.LiftRel.refl Eq Eq _)
  size_le ht hs := (Frugal.or hc hd).size_le ht (hs ▸ Sum.LiftRel.refl Eq Eq _)
  put_append {_ _ ab _} ht _ := (Frugal.or hc hd).put_append ht (by cases ab <;> trivial)

theorem take_codec {a : α} (h : c.codec.take f bs = .ok (a, rest)) :
    ∃ i rest', (Codec.variant c.count).take f bs = .ok (i, rest') ∧ c.take f i rest' = .ok (a, rest) := by
  have ⟨⟨i, rest'⟩, hi, ha⟩ := bind_eq_ok_iff.mp h
  exact ⟨i, rest', hi, ha⟩

theorem Frugal.codec (h : c.Frugal same plain) (hc : c.count ≤ UInt32.size) :
    c.codec.Frugal same plain where
  reads ht hs := by
    obtain ⟨_, _, hi, ha⟩ := take_codec ht
    have hlt := (Codec.take_variant hi).left
    refine codec_reads hc ?_ (h.reads ha hs)
    rwa [h.index_same hs, h.index_eq ha hlt]
  size_le ht hs := by
    obtain ⟨_, _, hi, ha⟩ := take_codec ht
    have hli := Codec.variant_size_le hi
    have hla := h.size_le ha hs
    simp only [Choice.codec, h.index_same hs, h.index_eq ha (Codec.take_variant hi).left]
    omega
  put_append ht hp := by
    obtain ⟨_, _, hi, ha⟩ := take_codec ht
    simp only [Choice.codec, h.index_eq ha (Codec.take_variant hi).left]
    rw [List.append_assoc, h.put_append ha hp]
    exact Codec.variant_put_append hi

end Choice

end Wire

end ClusterClient
