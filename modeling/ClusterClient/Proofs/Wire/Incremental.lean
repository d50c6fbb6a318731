import ClusterClient.Wire.Codec
import Mathlib

namespace ClusterClient

namespace Wire

-- The end of the input where more is due, as each of the formats reports it.
inductive Fault.IsCut : Format → Fault → Prop
  | field : IsCut .binary .cutField
  | contents : IsCut .binary .cutContents
  | buffer : IsCut .compact .endOfBuffer

abbrev Reader (α : Type) : Type := Bytes → Except Fault (α × Bytes)

namespace Reader

variable {α β : Type} {f : Format} {r : Reader α}
  {k : α × Bytes → Except Fault (β × Bytes)}

-- Either the bytes do not suffice, or further bytes are left over and make no difference.
def Incremental (f : Format) (r : Reader α) : Prop :=
  ∀ bs more, (∃ fault : Fault, fault.IsCut f ∧ r bs = .error fault) ∨
    r (bs ++ more) = (r bs).map fun (a, rest) => (a, rest ++ more)

namespace Incremental

theorem pure (a : α) : Incremental f fun bs => .ok (a, bs) :=
  fun _ _ => .inr rfl

theorem error (fault : Fault) : Incremental f fun _ => (.error fault : Except Fault (α × Bytes)) :=
  fun _ _ => .inr rfl

theorem bind (h : Incremental f r) (hk : ∀ a, Incremental f fun rest => k (a, rest)) :
    Incremental f fun bs => r bs >>= k := by
  intro bs more
  cases h bs more
  case inl hc =>
    have ⟨fault, hc, he⟩ := hc
    exact .inl ⟨fault, hc, by simp only [he]; rfl⟩
  case inr hm =>
    simp only [hm]
    rcases r bs with fault | ⟨a, rest⟩
    case error => exact .inr rfl
    case ok => exact hk a rest more

-- A reader that needs a byte to begin with, and goes on from there.
theorem byte {fault : Fault} (hc : fault.IsCut f) (hn : r [] = .error fault)
    (h : ∀ b, Incremental f fun bs => r (b :: bs)) : Incremental f r := by
  intro bs more
  cases bs
  case nil => exact .inl ⟨fault, hc, hn⟩
  case cons b bs => exact h b bs more

-- A written value is not read from fewer bytes than were written.
theorem isCut_of_reads (h : Incremental f r) {bs more : Bytes} {a : α} (hr : r (bs ++ more) = .ok (a, []))
    (hm : more ≠ []) : ∃ fault : Fault, fault.IsCut f ∧ r bs = .error fault := by
  refine (h bs more).resolve_right fun he => ?_
  rw [hr] at he
  rcases hb : r bs with fault | ⟨a', rest⟩ <;> rw [hb] at he
  case error => contradiction
  case ok =>
    have hl : rest ++ more = [] := (congrArg Prod.snd (Except.ok.inj he)).symm
    exact hm (List.append_eq_nil_iff.mp hl).right

end Incremental

theorem takeFixed_incremental (width : Nat) : Incremental .binary (takeFixed width) := by
  induction width
  case zero => exact .pure 0
  case succ width hi => exact .byte .field rfl fun b => hi.bind fun n => .pure (b.toNat + 256 * n)

theorem takeGroups_incremental (top groups : Nat) : Incremental .compact (takeGroups top groups) := by
  induction groups
  case zero => exact .error .overlongNumber
  case succ groups hi =>
    refine .byte .buffer rfl fun b => ?_
    simp only [takeGroups]
    split
    case isFalse => exact hi.bind fun n => .pure (b.toNat - 128 + 128 * n)
    case isTrue =>
      split
      case isTrue => exact .error .overlongNumber
      case isFalse => exact .pure b.toNat

end Reader

namespace Codec

variable {α β : Type} {c : Codec α} {d : Codec β}

def Incremental (c : Codec α) : Prop :=
  ∀ f, Reader.Incremental f (c.take f)

open Reader.Incremental

theorem Incremental.imap (h : c.Incremental) {wrap : α → β} {unwrap : β → α} :
    (c.imap wrap unwrap).Incremental :=
  fun f => (h f).bind fun a => .pure (wrap a)

theorem Incremental.pair (hc : c.Incremental) (hd : d.Incremental) : (c.pair d).Incremental :=
  fun f => (hc f).bind fun a => (hd f).bind fun b => .pure (a, b)

theorem unsigned_incremental (w : Width) : (unsigned w).Incremental
  | .binary  => Reader.takeFixed_incremental w.bytes
  | .compact => Reader.takeGroups_incremental w.topGroup w.groups

theorem u16_incremental : u16.Incremental := (unsigned_incremental .w16).imap

theorem u32_incremental : u32.Incremental := (unsigned_incremental .w32).imap

theorem u64_incremental : u64.Incremental := (unsigned_incremental .w64).imap

theorem signed_incremental (w : Width) : (signed w).Incremental :=
  fun f => (unsigned_incremental w f).bind fun n => .pure (signed.preimage w f n)

theorem i32_incremental : i32.Incremental := (signed_incremental .w32).imap

theorem i64_incremental : i64.Incremental := (signed_incremental .w64).imap

theorem takeContents_incremental (f : Format) (n : Nat) : Reader.Incremental f (takeContents f n) := by
  intro bs more
  by_cases h : n ≤ bs.length
  case pos =>
    have hm : n ≤ (bs ++ more).length := h.trans (by simp)
    simp only [takeContents, h, hm, if_true, List.splitAt_eq, List.take_append_of_le_length h,
      List.drop_append_of_le_length h]
    exact .inr rfl
  case neg =>
    simp only [takeContents, h, if_false]
    cases f
    case binary  => exact .inl ⟨.cutContents, .contents, rfl⟩
    case compact => exact .inl ⟨.endOfBuffer, .buffer, rfl⟩

theorem bytes_incremental : bytes.Incremental :=
  fun f => (unsigned_incremental .w64 f).bind (takeContents_incremental f)

theorem text_incremental : text.Incremental := by
  refine fun f => (bytes_incremental f).bind fun contents => ?_
  dsimp only
  cases Utf8.decode contents
  case ok s    => cases f <;> exact .pure s
  case error e => cases f <;> exact .error _

theorem bit_incremental (bad : UInt8 → Fault) (compactBad : Fault) : (bit bad compactBad).Incremental := by
  intro f
  have rest (b : UInt8) : Reader.Incremental f fun bs => (bit bad compactBad).take f (b :: bs) := by
    simp only [bit]
    split
    case isTrue => exact .pure false
    case isFalse =>
      split
      case isTrue => exact .pure true
      case isFalse => cases f <;> exact .error _
  cases f
  case binary  => exact .byte .field rfl rest
  case compact => exact .byte .buffer rfl rest

theorem Incremental.option (h : c.Incremental) : c.option.Incremental := by
  refine fun f => (bit_incremental _ _ f).bind fun present => ?_
  cases present
  case false => exact .pure none
  case true  => exact (h f).bind fun a => .pure (some a)

theorem takeMany_incremental (h : c.Incremental) (f : Format) (n : Nat) :
    Reader.Incremental f (takeMany c f n) := by
  induction n
  case zero => exact .pure []
  case succ n hi => exact (h f).bind fun a => hi.bind fun as => .pure (a :: as)

theorem Incremental.list (h : c.Incremental) : c.list.Incremental :=
  fun f => (unsigned_incremental .w64 f).bind (takeMany_incremental h f)

theorem Incremental.keyMap [DecidableEq α] (hc : c.Incremental) (hd : d.Incremental) :
    (Codec.keyMap c d).Incremental :=
  (hc.pair hd).list.imap

theorem variant_incremental (count : Nat) : (variant count).Incremental := by
  refine fun f => (unsigned_incremental .w32 f).bind fun n => ?_
  by_cases h : n < count <;> simp only [h, if_true, if_false]
  case pos => exact .pure n
  case neg => cases f <;> exact .error _

end Codec

namespace Choice

variable {α β : Type} {c : Choice α} {d : Choice β}

def Incremental (c : Choice α) : Prop :=
  ∀ f i, Reader.Incremental f (c.take f i)

theorem only_incremental {c : Codec α} (h : c.Incremental) : (only c).Incremental :=
  fun f _ => h f

theorem Incremental.or (hc : c.Incremental) (hd : d.Incremental) : (c.or d).Incremental := by
  intro f i
  by_cases h : i < c.count <;> simp only [Choice.or, h, if_true, if_false]
  case pos => exact (hc f i).bind fun a => .pure (Sum.inl a)
  case neg => exact (hd f (i - c.count)).bind fun b => .pure (Sum.inr b)

theorem Incremental.codec (h : c.Incremental) : c.codec.Incremental :=
  fun f => (Codec.variant_incremental c.count f).bind (h f)

end Choice

end Wire

end ClusterClient
