import DeskStream.Proofs.Security.Sealing
/-!
# The form of a sealed message

A sealed message is its nonce, the message octet by octet xored with the keystream, and the tag of that.
A key ring opens what has this form under its key, and nothing else (`KeyRing.decrypt_eq_ok_iff`), so a
string that opens is determined by its nonce and its message (`sealed_form`).
-/

namespace DeskStream

/-! ## The keystream, octet by octet -/

namespace ChaCha20

/-- The octet of the keystream at a place, which is in block `i / 64` from a counter on. -/
def octet (key nonce : Bytes) (counter : UInt32) (i : Nat) : UInt8 :=
  (block key nonce (counter + .ofNat (i / 64))).getD (i % 64) 0

theorem octet_of_lt (key nonce : Bytes) (counter : UInt32) {i : Nat} (h : i < 64) :
    some (octet key nonce counter i) = (block key nonce counter)[i]? := by
  have hl : i < (block key nonce counter).length := by rwa [length_block]
  have h0 : UInt32.ofNat (i / 64) = 0 := by rw [Nat.div_eq_of_lt h]; rfl
  rw [octet, h0, UInt32.add_zero, Nat.mod_eq_of_lt h, List.getD_eq_getElem?_getD, List.getElem?_eq_getElem hl,
    Option.getD_some]

/-- A whole block on, the keystream is that of the next counter. -/
theorem octet_add (key nonce : Bytes) (counter : UInt32) (i : Nat) :
    octet key nonce counter (i + 64) = octet key nonce (counter + 1) i := by
  have hc : counter + UInt32.ofNat (i / 64 + 1) = counter + 1 + UInt32.ofNat (i / 64) := by
    rw [UInt32.ofNat_add, UInt32.add_comm (UInt32.ofNat (i / 64)), ← UInt32.add_assoc]
    rfl
  rw [octet, octet, Nat.add_div_right i (by decide), Nat.add_mod_right, hc]

theorem getElem?_blocks (key nonce : Bytes) (counter : UInt32) {n i : Nat} (h : i < 64 * n) :
    (blocks key nonce counter n)[i]? = some (octet key nonce counter i) := by
  induction n generalizing counter i with
  | zero => omega
  | succ n ih =>
    rw [blocks]
    by_cases hi : i < 64
    · rw [List.getElem?_append_left (by rwa [length_block]), octet_of_lt key nonce counter hi]
    · obtain ⟨j, rfl⟩ : ∃ j, i = j + 64 := ⟨i - 64, by omega⟩
      rw [List.getElem?_append_right (by rw [length_block]; omega), length_block, Nat.add_sub_cancel,
        ih (counter + 1) (by omega), octet_add]

/-- Across the bounds of blocks, and up to a last one that is used in part, each octet is xored with the one of
the keystream that has its place. -/
theorem apply_eq_mapIdx (key nonce : Bytes) (counter : UInt32) (b : Bytes) :
    apply key nonce counter b = b.mapIdx fun i o => o ^^^ octet key nonce counter i := by
  apply List.ext_getElem?
  intro i
  rw [apply, Bytes.xor, List.getElem?_zipWith, List.getElem?_mapIdx]
  cases hb : b[i]? with
  | none => rfl
  | some o =>
    have hi : i < b.length := (List.getElem?_eq_some_iff.1 hb).1
    rw [keystream, getElem?_blocks key nonce counter (by omega)]
    rfl

end ChaCha20

/-! ## What opens -/

/-- What a ciphertext is decrypted to determines it. -/
theorem Aead.decrypt_eq_some_iff {key nonce ciphertext tag message : Bytes} :
    decrypt key nonce ciphertext tag = some message ↔
      fits message ∧ ciphertext = cipher key nonce message ∧ tag = Aead.tag key nonce ciphertext := by
  have hfits : fits ciphertext = fits (cipher key nonce ciphertext) := by rw [fits, fits, length_cipher]
  unfold decrypt
  constructor
  · intro h
    split at h
    · rename_i hc
      rw [Bool.and_eq_true, beq_iff_eq] at hc
      obtain rfl := Option.some.inj h
      exact ⟨hfits ▸ hc.1, (cipher_cipher ..).symm, hc.2⟩
    · cases h
  · rintro ⟨hm, rfl, rfl⟩
    rw [cipher_cipher] at hfits
    simp [hfits, hm, cipher_cipher]

namespace Sealed

/-- Nonce, ciphertext and tag of a message, after RFC 8439: the keystream begins with block one. -/
def ofParts (key : Key) (nonce message : Bytes) : Bytes :=
  let ciphertext := message.mapIdx fun i o => o ^^^ ChaCha20.octet key.val nonce 1 i
  nonce ++ ciphertext ++ Aead.tag key.val nonce ciphertext

theorem ofParts_eq (key : Key) (nonce message : Bytes) :
    ofParts key nonce message =
      nonce ++ Aead.cipher key.val nonce message ++ Aead.tag key.val nonce (Aead.cipher key.val nonce message) := by
  rw [ofParts, Aead.cipher, ChaCha20.apply_eq_mapIdx]

theorem ofMessage_eq_some_iff {key : Key} {nonce : Nonce} {message box : Bytes} :
    ofMessage key nonce message = some box ↔ Aead.fits message ∧ box = ofParts key nonce.val message := by
  rw [ofParts_eq]
  unfold ofMessage Aead.encrypt
  split
  · rename_i h
    simp [h, eq_comm]
  · rename_i h
    simp [h]

@[simp] theorem length_ofParts (key : Key) (nonce : Nonce) (message : Bytes) :
    (ofParts key nonce.val message).length = message.length + minSize := by
  have hn : nonce.val.length = nonceSize := nonce.property
  simp only [ofParts_eq, List.length_append, Aead.length_cipher, Aead.length_tag, hn, minSize, tagSize]
  omega

theorem take_ofParts (key : Key) (nonce : Nonce) (message : Bytes) :
    (ofParts key nonce.val message).take nonceSize = nonce.val := by
  have hn : nonce.val.length = nonceSize := nonce.property
  rw [ofParts_eq, List.append_assoc, ← hn, List.take_left]

/-- What stands before the tag determines the message. -/
theorem eq_of_take_ofParts {key : Key} {nonce nonce' : Nonce} {message message' : Bytes}
    (hl : message'.length = message.length)
    (h : (ofParts key nonce'.val message').take (message.length + nonceSize) =
      (ofParts key nonce.val message).take (message.length + nonceSize)) :
    nonce' = nonce ∧ message' = message := by
  have front (nonce : Nonce) (m : Bytes) (hm : m.length = message.length) :
      (ofParts key nonce.val m).take (message.length + nonceSize) = nonce.val ++ Aead.cipher key.val nonce.val m := by
    have hn : nonce.val.length = nonceSize := nonce.property
    rw [ofParts_eq]
    apply List.take_left'
    rw [List.length_append, Aead.length_cipher, hn, hm, Nat.add_comm]
  rw [front nonce' message' hl, front nonce message rfl] at h
  obtain ⟨hn, hc⟩ := List.append_inj h (nonce'.property.trans nonce.property.symm)
  obtain rfl := Subtype.ext hn
  have := congrArg (Aead.cipher key.val nonce'.val) hc
  rw [Aead.cipher_cipher, Aead.cipher_cipher] at this
  exact ⟨rfl, this⟩

/-- A string of the least size or more has a nonce and a tag. -/
theorem exists_parts {box : Bytes} (h : minSize ≤ box.length) :
    ∃ (nonce : Nonce) (ciphertext tag : Bytes), tag.length = tagSize ∧ box = nonce.val ++ ciphertext ++ tag := by
  have hsize : nonceSize + tagSize ≤ box.length := h
  have hnonce : (box.take nonceSize).length = 12 := by
    rw [List.length_take, Nat.min_eq_left (by omega)]; rfl
  refine ⟨⟨box.take nonceSize, hnonce⟩, (box.drop nonceSize).take (box.length - nonceSize - tagSize),
    (box.drop nonceSize).drop (box.length - nonceSize - tagSize), ?_, ?_⟩
  · rw [List.length_drop, List.length_drop]
    omega
  · rw [List.append_assoc, List.take_append_drop, List.take_append_drop]

/-- What opens was sealed, under the nonce it begins with. -/
theorem toMessage?_eq_some_iff {key : Key} {message box : Bytes} (h : minSize ≤ box.length) :
    toMessage? key box = some message ↔ ∃ nonce, ofMessage key nonce message = some box := by
  constructor
  · obtain ⟨nonce, ciphertext, tag, ht, rfl⟩ := exists_parts h
    intro hd
    rw [toMessage?_append key nonce.property ht, Aead.decrypt_eq_some_iff] at hd
    obtain ⟨hm, rfl, rfl⟩ := hd
    exact ⟨nonce, ofMessage_eq_some_iff.2 ⟨hm, (ofParts_eq ..).symm⟩⟩
  · rintro ⟨nonce, hs⟩
    exact (toMessage?_ofMessage hs).1

end Sealed

namespace KeyRing

variable {r : KeyRing} {box box' message message' : Bytes}

/-- A key ring opens what was sealed under the key it holds, and nothing else. -/
theorem decrypt_eq_ok_iff :
    r.decrypt box = .ok message ↔
      ∃ keys nonce, r.keys = some keys ∧ Sealed.ofMessage keys.key nonce message = some box := by
  unfold decrypt
  constructor
  · intro h
    split at h
    · cases h
    · rename_i hsize
      split at h
      · cases h
      · rename_i keys hk
        split at h
        · cases h
        · rename_i m hm
          obtain rfl := Except.ok.inj h
          obtain ⟨nonce, hs⟩ := (Sealed.toMessage?_eq_some_iff (Nat.le_of_not_lt hsize)).1 hm
          exact ⟨keys, nonce, hk, hs⟩
  · rintro ⟨keys, nonce, hk, hs⟩
    obtain ⟨ho, hsize⟩ := Sealed.toMessage?_ofMessage hs
    rw [if_neg (Nat.not_lt.2 hsize), hk]
    simp only [ho]

/-- A key is held. -/
def Holds (r : KeyRing) (key : Key) : Prop := ∃ keys, r.keys = some keys ∧ keys.key = key

theorem decrypt_eq_ok_iff_of_holds {key : Key} (hr : r.Holds key) :
    r.decrypt box = .ok message ↔ ∃ nonce, Sealed.ofMessage key nonce message = some box := by
  obtain ⟨keys, hk, rfl⟩ := hr
  rw [decrypt_eq_ok_iff]
  constructor
  · rintro ⟨keys', nonce, hk', hs⟩
    obtain rfl := Option.some.inj (hk.symm.trans hk')
    exact ⟨nonce, hs⟩
  · rintro ⟨nonce, hs⟩
    exact ⟨keys, nonce, hk, hs⟩

/-- A long enough string that does not open has another tag than its own. -/
theorem decrypt_eq_tagMismatch {key : Key} (hr : r.Holds key) (hsize : Sealed.minSize ≤ box.length)
    (h : ∀ message, r.decrypt box ≠ .ok message) : r.decrypt box = .error .tagMismatch := by
  obtain ⟨keys, hk, rfl⟩ := hr
  unfold decrypt at h ⊢
  rw [if_neg (Nat.not_lt.2 hsize), hk] at h ⊢
  simp only at h ⊢
  split
  · rfl
  · rename_i m hm
    exact absurd (by rw [hm]) (h m)

theorem encrypt_eq_ok {key : Key} (hr : r.Holds key) (nonce : Nonce) (h : Aead.fits message) :
    r.encrypt nonce message = .ok (Sealed.ofParts key nonce.val message) := by
  obtain ⟨keys, hk, rfl⟩ := hr
  have hs : Sealed.ofMessage keys.key nonce message = some (Sealed.ofParts keys.key nonce.val message) :=
    Sealed.ofMessage_eq_some_iff.2 ⟨h, rfl⟩
  simp only [encrypt, hk, hs]

/-- What opens is sealed from its parts. -/
theorem eq_ofParts_of_decrypt {key : Key} (hr : r.Holds key) (h : r.decrypt box = .ok message) :
    ∃ nonce : Nonce, Aead.fits message ∧ box = Sealed.ofParts key nonce.val message := by
  obtain ⟨nonce, hs⟩ := (decrypt_eq_ok_iff_of_holds hr).1 h
  exact ⟨nonce, Sealed.ofMessage_eq_some_iff.1 hs⟩

end KeyRing

/-! ## The form -/

/-- Messages below this have fewer blocks than the counter has values. -/
def Aead.limit : Nat := 64 * maxBlocks

theorem Aead.fits_iff {b : Bytes} : fits b ↔ b.length < limit := by
  rw [fits, decide_eq_true_eq, limit, Nat.div_lt_iff_lt_mul (by decide), Nat.mul_comm]

namespace KeyRing

variable {r r' : KeyRing} {key : Key} {box box' message message' : Bytes}

theorem decrypt_eq_ok_iff_ofParts (hr : r.Holds key) (hlimit : box.length < Sealed.minSize + Aead.limit) :
    r.decrypt box = .ok message ↔
      Sealed.minSize ≤ box.length ∧ box = Sealed.ofParts key (box.take Sealed.nonceSize) message := by
  constructor
  · intro h
    obtain ⟨nonce, -, rfl⟩ := eq_ofParts_of_decrypt hr h
    rw [Sealed.take_ofParts, Sealed.length_ofParts]
    exact ⟨Nat.le_add_left .., rfl⟩
  · rintro ⟨hsize, hbox⟩
    obtain ⟨nonce, ciphertext, tag, -, hparts⟩ := Sealed.exists_parts hsize
    have hn : box.take Sealed.nonceSize = nonce.val := by
      rw [hparts, List.append_assoc]
      exact List.take_left' nonce.property
    rw [hn] at hbox
    rw [hbox, Sealed.length_ofParts] at hlimit
    have hfits : Aead.fits message := Aead.fits_iff.2 (by omega)
    exact (decrypt_eq_ok_iff_of_holds hr).2 ⟨nonce, Sealed.ofMessage_eq_some_iff.2 ⟨hfits, hbox⟩⟩

/-- What one ring seals opens in another with the same key. -/
theorem decrypt_ofParts (hr : r.Holds key) (nonce : Nonce) (h : Aead.fits message) :
    r.decrypt (Sealed.ofParts key nonce.val message) = .ok message :=
  (decrypt_eq_ok_iff_of_holds hr).2 ⟨nonce, Sealed.ofMessage_eq_some_iff.2 ⟨h, rfl⟩⟩

theorem decrypt_of_other_tag (hr : r.Holds key) (ho : r.decrypt box = .ok message) (hl : box'.length = box.length)
    (hfront : box'.take (box.length - Sealed.tagSize) = box.take (box.length - Sealed.tagSize)) (hne : box' ≠ box) :
    r.decrypt box' = .error .tagMismatch := by
  obtain ⟨nonce, -, rfl⟩ := eq_ofParts_of_decrypt hr ho
  refine decrypt_eq_tagMismatch hr ?_ ?_
  · rw [hl, Sealed.length_ofParts]
    exact Nat.le_add_left ..
  · -- If it opened, its nonce and its message would be those of the other, and so would its tag.
    intro message' ho'
    obtain ⟨nonce', -, rfl⟩ := eq_ofParts_of_decrypt hr ho'
    have hlength : message'.length = message.length := by simpa using hl
    have hsize : message.length + Sealed.minSize - Sealed.tagSize = message.length + Sealed.nonceSize := rfl
    rw [Sealed.length_ofParts, hsize] at hfront
    obtain ⟨rfl, rfl⟩ := Sealed.eq_of_take_ofParts hlength hfront
    exact hne rfl

theorem ne_of_decrypt (hr : r.Holds key) (ho : r.decrypt box = .ok message) (ho' : r.decrypt box' = .ok message')
    (hnonce : box'.take Sealed.nonceSize = box.take Sealed.nonceSize) (hne : box' ≠ box) : message' ≠ message := by
  rintro rfl
  obtain ⟨nonce, -, rfl⟩ := eq_ofParts_of_decrypt hr ho
  obtain ⟨nonce', -, rfl⟩ := eq_ofParts_of_decrypt hr ho'
  rw [Sealed.take_ofParts, Sealed.take_ofParts] at hnonce
  exact hne (congrArg (Sealed.ofParts key · _) hnonce)

end KeyRing

/-- Below the limit a string opens to a message exactly if it is nonce, ciphertext and tag of the message. So a
message sealed under any nonce opens wherever its key is held, a change of the tag is noticed, and under one
nonce no two strings open to one message. A string too short for nonce and tag is found so without a key. -/
theorem sealed_form (key : Key) :
    (∀ (r : KeyRing) box message, r.Holds key → box.length < Sealed.minSize + Aead.limit →
      (r.decrypt box = .ok message ↔
        Sealed.minSize ≤ box.length ∧ box = Sealed.ofParts key (box.take Sealed.nonceSize) message)) ∧
      (∀ (r r' : KeyRing) nonce message, r.Holds key → r'.Holds key → message.length < Aead.limit →
        ∃ box, r.encrypt nonce message = .ok box ∧ box.take Sealed.nonceSize = nonce.val ∧
          r'.decrypt box = .ok message) ∧
      (∀ (r : KeyRing) box box' message, r.Holds key → r.decrypt box = .ok message → box'.length = box.length →
        box'.take (box.length - Sealed.tagSize) = box.take (box.length - Sealed.tagSize) → box' ≠ box →
        r.decrypt box' = .error .tagMismatch) ∧
      (∀ (r : KeyRing) box box' message message', r.Holds key → r.decrypt box = .ok message →
        r.decrypt box' = .ok message' → box'.take Sealed.nonceSize = box.take Sealed.nonceSize → box' ≠ box →
        message' ≠ message) ∧
      ∀ (r : KeyRing) box, box.length < Sealed.minSize → r.decrypt box = .error (.shortMessage box.length) := by
  refine ⟨?_, ?_, ?_, ?_, ?_⟩
  · intro r box message hr hlimit
    exact KeyRing.decrypt_eq_ok_iff_ofParts hr hlimit
  · intro r r' nonce message hr hr' hm
    have hfits := Aead.fits_iff.2 hm
    exact ⟨_, KeyRing.encrypt_eq_ok hr nonce hfits, Sealed.take_ofParts .., KeyRing.decrypt_ofParts hr' nonce hfits⟩
  · intro r box box' message hr ho hl hfront hne
    exact KeyRing.decrypt_of_other_tag hr ho hl hfront hne
  · intro r box box' message message' hr ho ho' hnonce hne
    exact KeyRing.ne_of_decrypt hr ho ho' hnonce hne
  · intro r box h
    rw [KeyRing.decrypt, if_pos h]

/-- A message that ends in a second block opens, with every octet of its tag one higher it does not, and without a
key the empty string is too short. -/
theorem sealed_form_secondBlock :
    let key : Key := ⟨List.replicate 32 7, rfl⟩
    let nonce : Nonce := ⟨List.replicate 12 0, rfl⟩
    let ring := KeyRing.preshared ⟨"token"⟩ key
    let message : Bytes := List.replicate 65 9
    let box := Sealed.ofParts key nonce.val message
    let forged := box.take 77 ++ (box.drop 77).map (· + 1)
    ring.decrypt box = .ok message ∧ ring.decrypt forged = .error .tagMismatch ∧
      (KeyRing.ofAccounts {}).decrypt [] = .error (.shortMessage 0) := by
  intro key nonce ring message box forged
  obtain ⟨hform, -, htag, -, hshort⟩ := sealed_form key
  have hring : ring.Holds key := ⟨⟨⟨"token"⟩, key⟩, rfl, rfl⟩
  have hlength : box.length = 93 := Sealed.length_ofParts key nonce message
  have hopen : ring.decrypt box = .ok message := by
    refine (hform ring box message hring ?_).2 ⟨?_, ?_⟩
    · rw [hlength]; decide
    · rw [hlength]; decide
    · rw [Sealed.take_ofParts key nonce message]
  have hforged : forged ≠ box := by
    intro h
    have htags : (box.drop 77).map (· + 1) = box.drop 77 :=
      List.append_cancel_left (h.trans (List.take_append_drop ..).symm)
    have hdrop : (box.drop 77).length = 16 := by rw [List.length_drop, hlength]
    obtain ⟨o, tags, ho⟩ := List.exists_cons_of_length_eq_add_one hdrop
    rw [ho, List.map_cons] at htags
    have : o + 1 = o := (List.cons.inj htags).1
    grind
  refine ⟨hopen, htag ring box forged message hring hopen ?_ ?_ hforged, hshort _ [] (by decide)⟩
  · rw [List.length_append, List.length_map, List.length_take, List.length_drop, hlength]; rfl
  · rw [hlength]
    exact List.take_left' (by rw [List.length_take, hlength]; rfl)

end DeskStream
