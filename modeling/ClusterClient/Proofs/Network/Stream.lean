import ClusterClient.Network.Connection
import ClusterClient.Proofs.Wire.Number

namespace ClusterClient

open Wire Connection

namespace Stream

-- The frames that a byte string starts with, as far as they are complete.
def frames (bs : Bytes) : List Bytes :=
  let n := bigValue (bs.take 4)
  if 4 + n ≤ bs.length then (bs.drop 4).take n :: frames (bs.drop (4 + n)) else []
termination_by bs.length
decreasing_by rw [List.length_drop]; omega

variable {bs frame rest : Bytes}

-- There is only one way to take a frame from the front of a byte string.
theorem eq_withLength_append_iff :
    bs = withLength frame ++ rest ∧ frame.length < 256 ^ 4 ↔
      4 + bigValue (bs.take 4) ≤ bs.length ∧
        (bs.drop 4).take (bigValue (bs.take 4)) = frame ∧ bs.drop (4 + bigValue (bs.take 4)) = rest := by
  constructor
  case mp =>
    intro ⟨hb, hl⟩
    have hn : bigValue (bs.take 4) = frame.length := by
      rw [hb, withLength, List.append_assoc, List.take_left' (length_putBig ..), bigValue_putBig,
        Nat.mod_eq_of_lt hl]
    have hd : bs.drop 4 = frame ++ rest := by
      rw [hb, withLength, List.append_assoc, List.drop_left' (length_putBig ..)]
    rw [hn, ← List.drop_drop, hd, List.take_left, List.drop_left]
    refine ⟨?_, rfl, rfl⟩
    simp [hb, withLength]
  case mpr =>
    intro ⟨hl, hf, hr⟩
    have ht : (bs.take 4).length = 4 := by rw [List.length_take]; omega
    have hn : frame.length = bigValue (bs.take 4) := by
      rw [← hf, List.length_take, List.length_drop]; omega
    have hp : putBig 4 frame.length = bs.take 4 := by
      have h := putBig_bigValue (bs.take 4)
      rwa [ht, ← hn] at h
    constructor
    case left =>
      rw [withLength, hp, ← hf, ← hr, ← List.drop_drop, List.append_assoc, List.take_append_drop,
        List.take_append_drop]
    case right =>
      have h := bigValue_lt (bs.take 4)
      rwa [ht, ← hn] at h

theorem frames_eq_cons_iff {fs : List Bytes} :
    frames bs = frame :: fs ↔
      ∃ rest, bs = withLength frame ++ rest ∧ frame.length < 256 ^ 4 ∧ frames rest = fs := by
  rw [frames]
  constructor
  case mp =>
    intro h
    split at h
    case isFalse => contradiction
    case isTrue hl =>
      have ⟨hf, hs⟩ := List.cons.inj h
      have ⟨hb, hn⟩ := eq_withLength_append_iff.mpr ⟨hl, hf, rfl⟩
      exact ⟨_, hb, hn, hs⟩
  case mpr =>
    intro ⟨rest, hb, hn, hs⟩
    have ⟨hl, hf, hr⟩ := eq_withLength_append_iff.mp ⟨hb, hn⟩
    simp only [hl, if_true, hf, hr, hs]

theorem frames_append {fs : List Bytes} (h : ∀ frame ∈ fs, frame.length < 256 ^ 4) (rest : Bytes) :
    frames (fs.flatMap withLength ++ rest) = fs ++ frames rest := by
  induction fs
  case nil => rfl
  case cons frame fs hi =>
    have ⟨hf, h⟩ := List.forall_mem_cons.mp h
    exact frames_eq_cons_iff.mpr ⟨_, by simp, hf, hi h⟩

theorem frames_flatMap {fs : List Bytes} (h : ∀ frame ∈ fs, frame.length < 256 ^ 4) :
    frames (fs.flatMap withLength) = fs := by
  have hn : frames [] = [] := by rw [frames]; rfl
  simpa [hn] using frames_append h []

-- What arrives later does not change the frames that are there.
theorem frames_prefix (bs more : Bytes) : frames bs <+: frames (bs ++ more) := by
  cases h : frames bs
  case nil => exact List.nil_prefix
  case cons frame fs =>
    have ⟨rest, hb, hn, hs⟩ := frames_eq_cons_iff.mp h
    have hm : frames (bs ++ more) = frame :: frames (rest ++ more) :=
      frames_eq_cons_iff.mpr ⟨_, by simp [hb], hn, rfl⟩
    rw [hm, List.prefix_cons_inj, ← hs]
    exact frames_prefix rest more
termination_by bs.length
decreasing_by simp [hb, withLength]; omega

theorem readFrame_eq (limit : Nat) (s : Stream) :
    s.readFrame limit =
      let n := bigValue (s.incoming.take 4)
      if s.incoming.length < 4 then .error (if s.ended then .ended else .stalled)
      else if limit < n then .error (.tooLarge n)
      else if 4 + n ≤ s.incoming.length then
        .ok ((s.incoming.drop 4).take n, { s with incoming := s.incoming.drop (4 + n) })
      else .error (if s.ended then .ended else .stalled) := by
  simp only [readFrame, read]
  -- The length and the payload are two reads, and each of them can come to the end of the stream.
  by_cases hl : 4 ≤ s.incoming.length
  case neg => simp [hl, Nat.lt_of_not_le hl, bind, Except.bind]
  case pos =>
    have hn (n : Nat) : n ≤ s.incoming.length - 4 ↔ 4 + n ≤ s.incoming.length := by omega
    simp only [hl, if_true, bind, Except.bind, Nat.not_lt.mpr hl, if_false, List.length_drop, hn,
      List.drop_drop]
    split <;> rfl

theorem readFrame_eq_ok_iff {limit : Nat} {s s' : Stream} :
    s.readFrame limit = .ok (frame, s') ↔
      (s.incoming = withLength frame ++ s'.incoming ∧ frame.length < 256 ^ 4) ∧ frame.length ≤ limit ∧
        s'.ended = s.ended := by
  have hn (hl : 4 + bigValue (s.incoming.take 4) ≤ s.incoming.length) :
      ((s.incoming.drop 4).take (bigValue (s.incoming.take 4))).length = bigValue (s.incoming.take 4) := by
    rw [List.length_take, List.length_drop]; omega
  rw [eq_withLength_append_iff, readFrame_eq]
  constructor
  case mp =>
    intro h
    simp only at h
    split at h <;> try contradiction
    split at h <;> try contradiction
    split at h <;> try contradiction
    case isTrue hlim hl =>
      cases h
      exact ⟨⟨hl, rfl, rfl⟩, by rw [hn hl]; omega, rfl⟩
  case mpr =>
    intro ⟨⟨hl, hf, hr⟩, hlim, he⟩
    have h4 : ¬s.incoming.length < 4 := by omega
    have hlim' : ¬limit < bigValue (s.incoming.take 4) := by rw [← hn hl, hf]; omega
    simp only [h4, hlim', hl, if_true, if_false, hf, hr, ← he]

theorem exists_readFrame_iff {limit : Nat} {s : Stream} :
    (∃ s', s.readFrame limit = .ok (frame, s')) ↔
      (frames s.incoming)[0]? = some frame ∧ frame.length ≤ limit where
  mp := by
    intro ⟨s', h⟩
    have ⟨⟨hb, hn⟩, hlim, _⟩ := readFrame_eq_ok_iff.mp h
    simp [frames_eq_cons_iff.mpr ⟨_, hb, hn, rfl⟩, hlim]
  mpr := by
    intro ⟨hf, hlim⟩
    cases hfs : frames s.incoming <;> simp [hfs] at hf
    case cons =>
      subst hf
      have ⟨rest, hb, hn, _⟩ := frames_eq_cons_iff.mp hfs
      exact ⟨{ s with incoming := rest }, readFrame_eq_ok_iff.mpr ⟨⟨hb, hn⟩, hlim, rfl⟩⟩

-- So many frames of those that have arrived were read, and a rest was not.
def InStep (read : Nat) (arrived rest : Bytes) : Prop :=
  ∃ fs : List Bytes, fs.length = read ∧ (∀ frame ∈ fs, frame.length < 256 ^ 4) ∧
    arrived = fs.flatMap withLength ++ rest

namespace InStep

variable {read : Nat} {arrived rest frame : Bytes}

theorem append (h : InStep read arrived rest) (bytes : Bytes) :
    InStep read (arrived ++ bytes) (rest ++ bytes) := by
  have ⟨fs, hl, hn, ha⟩ := h
  exact ⟨fs, hl, hn, by rw [ha, List.append_assoc]⟩

theorem succ (h : InStep read arrived (withLength frame ++ rest)) (hn : frame.length < 256 ^ 4) :
    InStep (read + 1) arrived rest := by
  have ⟨fs, hl, hfs, ha⟩ := h
  refine ⟨fs ++ [frame], by simp [hl], ?_, by simp [ha]⟩
  exact List.forall_mem_append.mpr ⟨hfs, by simpa using hn⟩

theorem getElem?_frames (h : InStep read arrived rest) :
    (frames arrived)[read]? = (frames rest)[0]? := by
  have ⟨fs, hl, hfs, ha⟩ := h
  rw [ha, frames_append hfs, List.getElem?_append_right (Nat.le_of_eq hl), hl, Nat.sub_self]

theorem eq_take_frames (h : InStep read arrived rest) :
    read ≤ (frames arrived).length ∧
      arrived = ((frames arrived).take read).flatMap withLength ++ rest := by
  have ⟨fs, hl, hfs, ha⟩ := h
  have hf : frames arrived = fs ++ frames rest := ha ▸ frames_append hfs rest
  rw [hf, List.take_left' hl]
  exact ⟨by simp [hl], ha⟩

theorem succ_of_readFrame {limit : Nat} {s s' : Stream} (h : InStep read arrived s.incoming)
    (hr : s.readFrame limit = .ok (frame, s')) : InStep (read + 1) arrived s'.incoming := by
  have ⟨⟨hb, hn⟩, _, _⟩ := readFrame_eq_ok_iff.mp hr
  exact succ (hb ▸ h) hn

theorem exists_readFrame_iff {limit : Nat} {s : Stream} (h : InStep read arrived s.incoming) :
    (∃ s', s.readFrame limit = .ok (frame, s')) ↔
      (frames arrived)[read]? = some frame ∧ frame.length ≤ limit := by
  rw [h.getElem?_frames, Stream.exists_readFrame_iff]

end InStep

end Stream

end ClusterClient
