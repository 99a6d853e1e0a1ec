import DeskStream.Security.KeyRing
/-!
# Sealed messages open

The cipher is an exclusive or with a keystream that is as long as the message, so it undoes itself;
the tag is that of the ciphertext. What a key ring seals it opens while it holds the same keys
(`KeyRing.decrypt_encrypt`).
-/

namespace DeskStream

theorem Bytes.xor_xor {a b : Bytes} (h : a.length ≤ b.length) : xor (xor a b) b = a := by
  induction a generalizing b with
  | nil => simp [xor]
  | cons x a ih =>
    cases b with
    | nil => simp at h
    | cons y b =>
      have rest : xor (xor a b) b = a := ih (by simpa using h)
      have first : x ^^^ y ^^^ y = x := by rw [UInt8.xor_assoc, UInt8.xor_self, UInt8.xor_zero]
      change (x ^^^ y ^^^ y) :: xor (xor a b) b = x :: a
      rw [first, rest]

theorem ChaCha20.apply_apply (key nonce : Bytes) (counter : UInt32) (b : Bytes) :
    apply key nonce counter (apply key nonce counter b) = b := by
  rw [apply, length_apply]
  exact Bytes.xor_xor (le_length_keystream ..)

theorem Aead.cipher_cipher (key nonce b : Bytes) : cipher key nonce (cipher key nonce b) = b :=
  ChaCha20.apply_apply ..

/-- What is encrypted is decrypted, and the tag has its size. -/
theorem Aead.decrypt_encrypt {key nonce message ciphertext tag : Bytes}
    (h : encrypt key nonce message = some (ciphertext, tag)) :
    decrypt key nonce ciphertext tag = some message ∧ tag.length = Sealed.tagSize := by
  unfold encrypt at h
  split at h
  · rename_i hf
    cases h
    have hf' : fits (cipher key nonce message) = true := by rwa [fits, length_cipher]
    exact ⟨by simp [decrypt, hf', cipher_cipher], length_tag ..⟩
  · cases h

/-- A string is opened in the parts in which it was laid out. -/
theorem Sealed.toMessage?_append (key : Key) {nonce ciphertext tag : Bytes} (hn : nonce.length = nonceSize)
    (ht : tag.length = tagSize) :
    toMessage? key (nonce ++ ciphertext ++ tag) = Aead.decrypt key.val nonce ciphertext tag := by
  have first : (nonce ++ ciphertext ++ tag).take nonceSize = nonce := by
    rw [List.append_assoc, ← hn, List.take_left]
  have rest : (nonce ++ ciphertext ++ tag).drop nonceSize = ciphertext ++ tag := by
    rw [List.append_assoc, ← hn, List.drop_left]
  have size : (ciphertext ++ tag).length - tagSize = ciphertext.length := by
    rw [List.length_append, ht]
    exact Nat.add_sub_cancel ..
  simp only [toMessage?, first, rest, size, List.take_left, List.drop_left]

theorem Sealed.toMessage?_ofMessage {key : Key} {nonce : Nonce} {message box : Bytes}
    (h : ofMessage key nonce message = some box) : toMessage? key box = some message ∧ minSize ≤ box.length := by
  simp only [ofMessage, Option.map_eq_some_iff, Prod.exists] at h
  obtain ⟨ciphertext, tag, he, rfl⟩ := h
  obtain ⟨hd, ht⟩ := Aead.decrypt_encrypt he
  have hn : nonce.val.length = nonceSize := nonce.property
  constructor
  · rw [toMessage?_append key hn ht, hd]
  · simp only [minSize, List.length_append, hn, ht]
    omega

/-- What a key ring seals it opens. -/
theorem KeyRing.decrypt_encrypt {r : KeyRing} {nonce : Nonce} {message box : Bytes}
    (h : r.encrypt nonce message = .ok box) : r.decrypt box = .ok message := by
  unfold encrypt at h
  split at h
  · cases h
  · rename_i keys hk
    split at h
    · cases h
    · rename_i hs
      cases h
      obtain ⟨ho, hl⟩ := Sealed.toMessage?_ofMessage hs
      rw [decrypt, if_neg (Nat.not_lt.2 hl), hk]
      simp [ho]

end DeskStream
