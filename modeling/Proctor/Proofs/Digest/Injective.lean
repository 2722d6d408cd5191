import Proctor.Digest.Fingerprint

/-!
# What a fingerprint tells apart

A fingerprint is a mark and 43 letters, which tell all hashes apart, so two sources have one
fingerprint just if their hashed bytes have one hash. What is hashed is another matter: content and
name stand one after the other, so of the two only their concatenation is told
(`Source.hashedText_eq_iff`).

## What is left out

There are more texts than hashes, so some of them share one. Of the hash nothing is shown but the
length of what it gives; that two lists of bytes do not share their hash is a condition on these two
(`Sha256.Collide`) wherever it matters.
-/

namespace Proctor

/-! ### Base 64 -/

namespace Base64

theorem char_injective_below : ∀ m < 64, ∀ n < 64, char m = char n → m = n := by
  decide +kernel

theorem char_inj {m n : Nat} (hm : m < 64) (hn : n < 64) : char m = char n ↔ m = n :=
  ⟨char_injective_below m hm n hn, congrArg char⟩

/-- Four characters tell which three bytes they stand for. -/
theorem group_inj {a b c a' b' c' : Nat} (ha : a < 256) (hb : b < 256) (hc : c < 256)
    (ha' : a' < 256) (hb' : b' < 256) (hc' : c' < 256) (h₁ : char (a / 4) = char (a' / 4))
    (h₂ : char (a % 4 * 16 + b / 16) = char (a' % 4 * 16 + b' / 16))
    (h₃ : char (b % 16 * 4 + c / 64) = char (b' % 16 * 4 + c' / 64))
    (h₄ : char (c % 64) = char (c' % 64)) : a = a' ∧ b = b' ∧ c = c' := by
  rw [char_inj (by omega) (by omega)] at h₁ h₂ h₃ h₄
  omega

theorem encode_injective : ∀ {xs ys : List UInt8}, encode xs = encode ys → xs = ys
  | a :: b :: c :: xs, a' :: b' :: c' :: ys, h => by
    simp only [encode, List.cons.injEq] at h
    obtain ⟨h₁, h₂, h₃, h₄, h⟩ := h
    obtain ⟨ha, hb, hc⟩ := group_inj a.toNat_lt b.toNat_lt c.toNat_lt a'.toNat_lt b'.toNat_lt
      c'.toNat_lt h₁ h₂ h₃ h₄
    rw [UInt8.toNat_inj.1 ha, UInt8.toNat_inj.1 hb, UInt8.toNat_inj.1 hc, encode_injective h]
  | [a, b], [a', b'], h => by
    simp only [encode, List.cons.injEq] at h
    obtain ⟨h₁, h₂, h₃, -⟩ := h
    obtain ⟨ha, hb, -⟩ := group_inj a.toNat_lt b.toNat_lt (Nat.zero_lt_succ 255) a'.toNat_lt
      b'.toNat_lt (Nat.zero_lt_succ 255) h₁ h₂ h₃ rfl
    rw [UInt8.toNat_inj.1 ha, UInt8.toNat_inj.1 hb]
  | [a], [a'], h => by
    simp only [encode, List.cons.injEq] at h
    obtain ⟨h₁, h₂, -⟩ := h
    obtain ⟨ha, -, -⟩ := group_inj a.toNat_lt (Nat.zero_lt_succ 255) (Nat.zero_lt_succ 255)
      a'.toNat_lt (Nat.zero_lt_succ 255) (Nat.zero_lt_succ 255) h₁ h₂ rfl rfl
    rw [UInt8.toNat_inj.1 ha]
  | [], [], _ => rfl
  | _ :: _ :: _ :: _, [], h | _ :: _ :: _ :: _, [_], h | _ :: _ :: _ :: _, [_, _], h
  | [_, _], [], h | [_, _], [_], h | [_, _], _ :: _ :: _ :: _, h
  | [_], [], h | [_], [_, _], h | [_], _ :: _ :: _ :: _, h
  | [], [_], h | [], [_, _], h | [], _ :: _ :: _ :: _, h => by simp [encode] at h

theorem encode_inj {xs ys : List UInt8} : encode xs = encode ys ↔ xs = ys :=
  ⟨encode_injective, congrArg encode⟩

/-- A letter, a digit, or one of the two marks. -/
def isLetter (c : Char) : Bool :=
  ('A' ≤ c && c ≤ 'Z') || ('a' ≤ c && c ≤ 'z') || ('0' ≤ c && c ≤ '9') || c == '-' || c == '_'

theorem isLetter_char : ∀ n < 64, isLetter (char n) = true := by
  decide +kernel

/-- What is written are characters of numbers below 64. -/
theorem exists_char_of_mem_encode : ∀ {bs : List UInt8} {c : Char}, c ∈ encode bs →
    ∃ n < 64, c = char n
  | a :: b :: c :: rest, l, h => by
    have ha := a.toNat_lt
    have hb := b.toNat_lt
    simp only [encode, List.mem_cons] at h
    rcases h with h | h | h | h | h
    · exact ⟨_, by omega, h⟩
    · exact ⟨_, by omega, h⟩
    · have hc := c.toNat_lt
      exact ⟨_, by omega, h⟩
    · exact ⟨_, by omega, h⟩
    · exact exists_char_of_mem_encode h
  | [a, b], l, h => by
    have ha := a.toNat_lt
    have hb := b.toNat_lt
    simp only [encode, List.mem_cons, List.not_mem_nil, or_false] at h
    rcases h with h | h | h
    · exact ⟨_, by omega, h⟩
    · exact ⟨_, by omega, h⟩
    · exact ⟨_, by omega, h⟩
  | [a], l, h => by
    have ha := a.toNat_lt
    simp only [encode, List.mem_cons, List.not_mem_nil, or_false] at h
    rcases h with h | h
    · exact ⟨_, by omega, h⟩
    · exact ⟨_, by omega, h⟩
  | [], l, h => by simp [encode] at h

theorem isLetter_of_mem_encode {bs : List UInt8} {c : Char} (h : c ∈ encode bs) :
    isLetter c = true := by
  obtain ⟨n, hn, rfl⟩ := exists_char_of_mem_encode h
  exact isLetter_char n hn

/-- Three bytes are four letters, and of a group that is not complete no letter is left out. -/
theorem length_encode : ∀ bs : List UInt8, (encode bs).length = (bs.length * 4 + 2) / 3
  | _ :: _ :: _ :: rest => by
    simp only [encode, List.length_cons, length_encode rest]
    omega
  | [_, _] | [_] | [] => by simp [encode]

end Base64

/-! ### Bytes of a text -/

namespace Text

theorem bytes_append (s t : String) : bytes (s ++ t) = bytes s ++ bytes t := by
  simp [bytes, String.toByteArray_append]

theorem bytes_inj {s t : String} : bytes s = bytes t ↔ s = t := by
  constructor
  · intro h
    rw [bytes, bytes, Array.toList_inj] at h
    exact String.toByteArray_inj.1 (ByteArray.ext h)
  · rintro rfl
    rfl

end Text

/-! ### Fingerprints -/

/-- Two messages have one hash. -/
def Sha256.Collide (xs ys : List UInt8) : Prop := xs ≠ ys ∧ hash xs = hash ys

/-- The name of a language tells where it ends. -/
theorem Language.wire_append_inj {l m : Language} {s t : String} :
    l.wire ++ s = m.wire ++ t ↔ l = m ∧ s = t := by
  constructor
  · intro h
    have hl : l.wire.toList ++ s.toList = m.wire.toList ++ t.toList := by
      rw [← String.toList_append, h, String.toList_append]
    cases l <;> cases m <;> simp [wire] at hl
    all_goals exact ⟨rfl, String.toList_inj.1 hl⟩
  · rintro ⟨rfl, rfl⟩
    rfl

namespace Source

variable {s t : Source} {version version' : String}

/-- What is hashed of a source, as one text. -/
def hashedText (s : Source) (version : String) : String :=
  version ++ (s.language.wire ++ (s.content ++ s.name))

theorem hashedBytes_eq (s : Source) (version : String) :
    s.hashedBytes version = Text.bytes (s.hashedText version) := by
  simp only [hashedBytes, hashedText, Text.bytes_append, List.append_assoc]

/-- Of content and name only their concatenation is hashed. -/
theorem hashedText_eq_iff :
    s.hashedText version = t.hashedText version ↔
      s.language = t.language ∧ s.content ++ s.name = t.content ++ t.name := by
  rw [hashedText, hashedText, String.append_right_inj, Language.wire_append_inj]

/-- A hashed text tells the source and the version, unless something may have moved between content
and name, or from the version on. -/
theorem hashedText_eq_iff_of_eq
    (h : version = version' ∧ (s.name = t.name ∨ s.content = t.content) ∨ s = t) :
    s.hashedText version = t.hashedText version' ↔ s = t ∧ version = version' := by
  constructor
  · intro he
    rcases h with ⟨rfl, h⟩ | rfl
    · obtain ⟨hl, hc⟩ := hashedText_eq_iff.1 he
      have hboth : s.name = t.name ∧ s.content = t.content := by
        rcases h with hn | hn
        · rw [hn, String.append_left_inj] at hc
          exact ⟨hn, hc⟩
        · rw [hn, String.append_right_inj] at hc
          exact ⟨hc, hn⟩
      refine ⟨?_, rfl⟩
      cases s
      cases t
      rw [Source.mk.injEq]
      exact ⟨hboth.1, hboth.2, hl⟩
    · exact ⟨rfl, (String.append_left_inj _).1 he⟩
  · rintro ⟨rfl, rfl⟩
    rfl

theorem digest_eq_iff :
    s.digest version = t.digest version' ↔
      Sha256.hash (s.hashedBytes version) = Sha256.hash (t.hashedBytes version') := by
  rw [digest, digest, String.ofList_inj, List.cons.injEq, Base64.encode_inj]
  simp

/-- Without a collision, a fingerprint tells the text that was hashed. -/
theorem digest_eq_iff_hashedText_eq
    (h : ¬ Sha256.Collide (s.hashedBytes version) (t.hashedBytes version')) :
    s.digest version = t.digest version' ↔ s.hashedText version = t.hashedText version' := by
  rw [digest_eq_iff, ← Text.bytes_inj, ← hashedBytes_eq, ← hashedBytes_eq]
  constructor
  · intro he
    by_cases hb : s.hashedBytes version = t.hashedBytes version'
    · exact hb
    · exact absurd ⟨hb, he⟩ h
  · exact congrArg Sha256.hash

/-- Without a collision, a fingerprint tells the language, and content and name run together. -/
theorem digest_eq_iff_of_not_collide
    (h : ¬ Sha256.Collide (s.hashedBytes version) (t.hashedBytes version)) :
    s.digest version = t.digest version ↔
      s.language = t.language ∧ s.content ++ s.name = t.content ++ t.name :=
  (digest_eq_iff_hashedText_eq h).trans hashedText_eq_iff

/-- A fingerprint is a mark and the letters of a hash. -/
theorem digest_letters (s : Source) (version : String) : ∃ letters : List Char,
    s.digest version = String.ofList ('v' :: letters) ∧ letters.length = 43 ∧
      ∀ c ∈ letters, Base64.isLetter c = true := by
  refine ⟨_, rfl, ?_, fun c hc => Base64.isLetter_of_mem_encode hc⟩
  rw [Base64.length_encode, Sha256.length_hash]

/-- What a fingerprint tells, if the hash does not collide: of two sources under one version whether
they have the same language and the same text of content and name, and of two versions of one
source whether they are the same. It is always a mark and 43 letters, and other hashes have other
fingerprints. -/
theorem digest_sensitivity (s t : Source) (version version' : String) :
    (¬ Sha256.Collide (s.hashedBytes version) (t.hashedBytes version) →
      (s.digest version = t.digest version ↔
        s.language = t.language ∧ s.content ++ s.name = t.content ++ t.name)) ∧
    (¬ Sha256.Collide (s.hashedBytes version) (s.hashedBytes version') →
      (s.digest version = s.digest version' ↔ version = version')) ∧
    (∃ letters : List Char, s.digest version = String.ofList ('v' :: letters) ∧
      letters.length = 43 ∧ ∀ c ∈ letters, Base64.isLetter c = true) ∧
    (s.digest version = t.digest version' ↔
      Sha256.hash (s.hashedBytes version) = Sha256.hash (t.hashedBytes version')) := by
  refine ⟨digest_eq_iff_of_not_collide, fun h => ?_, s.digest_letters version, digest_eq_iff⟩
  rw [digest_eq_iff_hashedText_eq h, hashedText_eq_iff_of_eq (Or.inr rfl)]
  exact and_iff_right rfl

/-- A source. -/
def whole : Source := { name := "hello.feature", content := "Feature: hello" }

/-- Another source; its name and its content are the same text when they run together. -/
def parted : Source := { name := "feature", content := "Feature: hellohello." }

theorem whole_parted_sensitivity :
    ¬ Sha256.Collide (whole.hashedBytes "0.1.0") (parted.hashedBytes "0.1.0") ∧
    ¬ Sha256.Collide (whole.hashedBytes "0.1.0") (whole.hashedBytes "0.2.0") ∧
    whole.digest "0.1.0" = parted.digest "0.1.0" ∧
    whole.digest "0.1.0" ≠ whole.digest "0.2.0" := by
  have hparted : ¬ Sha256.Collide (whole.hashedBytes "0.1.0") (parted.hashedBytes "0.1.0") :=
    fun h => h.1 (by decide +kernel)
  have hversion : ¬ Sha256.Collide (whole.hashedBytes "0.1.0") (whole.hashedBytes "0.2.0") :=
    fun h => absurd h.2 (by decide +kernel)
  obtain ⟨hsame, hother, -, -⟩ := digest_sensitivity whole parted "0.1.0" "0.2.0"
  exact ⟨hparted, hversion, (hsame hparted).2 ⟨rfl, by decide⟩,
    fun he => absurd ((hother hversion).1 he) (by decide)⟩

end Source

end Proctor
