import DeskStream.Proofs.History
import DeskStream.Proofs.Security.Layout
/-!
# Keys over a history

Accounts and keys change apart. What a call does to the accounts `Call.act` says, and the digest in force for a name is
that of its last registration, unless it was revoked since (`digest?_after`). Keys are there from a sign-in until a
sign-out, whatever is registered or revoked in between (`keys_of_history`).
-/

namespace DeskStream

/-! ## Digests -/

theorem foldl_or_eq_zero {b : Bytes} {o : UInt8} : b.foldl (· ||| ·) o = 0 ↔ o = 0 ∧ ∀ x ∈ b, x = 0 := by
  induction b generalizing o with
  | nil => simp
  | cons x b ih => rw [List.foldl_cons, ih, UInt8.or_eq_zero_iff, List.forall_mem_cons, and_assoc]

theorem forall_mem_xor {a b : Bytes} (h : a.length = b.length) : (∀ x ∈ Bytes.xor a b, x = 0) ↔ a = b := by
  induction a generalizing b with
  | nil => simp [Bytes.xor, (List.length_eq_zero_iff.1 h.symm)]
  | cons x a ih =>
    cases b with
    | nil => cases h
    | cons y b =>
      have hrest := ih (Nat.succ.inj h)
      change (∀ z ∈ (x ^^^ y) :: Bytes.xor a b, z = 0) ↔ _
      rw [List.forall_mem_cons, hrest, UInt8.xor_eq_zero_iff, List.cons.injEq]

/-- Folding the differences together finds equal length strings the same exactly if all their octets are. -/
theorem sameDigest_iff {a b : Bytes} (h : a.length = b.length) : sameDigest a b = true ↔ a = b := by
  rw [sameDigest, beq_iff_eq, foldl_or_eq_zero, forall_mem_xor h, and_iff_right rfl]

/-! ## Accounts -/

namespace Accounts

variable {a : Accounts} {c : Credentials} {fresh : Token} {name user : String} {d : Digest}

theorem lookup_cons_ite {users : List (String × Digest)} :
    ((name, d) :: users).lookup user = if user = name then some d else users.lookup user := by
  rw [List.lookup_cons]
  by_cases h : user = name
  · rw [if_pos h, beq_iff_eq.2 h]
  · rw [if_neg h, beq_eq_false_iff_ne.2 h]

theorem lookup_filter_ne (users : List (String × Digest)) (name user : String) :
    (users.filter (·.1 != name)).lookup user = if user = name then none else users.lookup user := by
  induction users with
  | nil => simp
  | cons entry users ih =>
    by_cases hn : entry.1 = name
    · rw [List.filter_cons_of_neg (by simp [hn]), ih, lookup_cons_ite, hn]
      split <;> rfl
    · rw [List.filter_cons_of_pos (by simp [hn]), lookup_cons_ite, lookup_cons_ite, ih]
      by_cases hu : user = name
      · subst hu
        rw [if_neg (Ne.symm hn), if_pos rfl, if_pos rfl]
      · simp only [if_neg hu]

theorem digest?_register : (a.register name d).digest? user = if user = name then some d else a.digest? user := by
  rw [digest?, register, lookup_cons_ite, lookup_filter_ne]
  split <;> rfl

theorem digest?_revoke : (a.revoke name).1.digest? user = if user = name then none else a.digest? user :=
  lookup_filter_ne ..

/-- Credentials are accepted if their digest is the one registered. -/
theorem authenticate_of_digest (h : a.digest? c.username = some (.ofPassword c.password)) :
    a.authenticate c fresh = .ok ⟨fresh, a.sharedKey⟩ := by
  rw [authenticate, h]
  exact if_pos ((sameDigest_iff rfl).2 rfl)

theorem authenticate_of_other (h : a.digest? c.username ≠ some (.ofPassword c.password)) (fresh : Token) :
    ∃ why, a.authenticate c fresh = .error (.rejected why) := by
  rw [authenticate]
  cases hd : a.digest? c.username with
  | none => exact ⟨_, rfl⟩
  | some d =>
    have hother : ¬ sameDigest d.val (Digest.ofPassword c.password).val = true := by
      rw [sameDigest_iff (d.property.trans (Digest.ofPassword c.password).property.symm)]
      exact fun he => h (hd.trans (congrArg some (Subtype.ext he)))
    exact ⟨_, if_neg hother⟩

end Accounts

/-! ## Calls -/

namespace KeyRing

/-- What can be asked of a session, and of the accounts behind it. -/
inductive Call where
  | authenticate (c : Credentials) (fresh : Draw)
  | logout
  | register (name : String) (d : Digest)
  | revoke (name : String)
  | encrypt (nonce : Nonce) (message : Bytes)
  | decrypt (box : Bytes)

/-- A call is made. -/
def step (r : KeyRing) : Call → KeyRing
  | .authenticate c fresh => (r.authenticate c fresh).1
  | .logout => r.logout
  | .register name d => r.register name d
  | .revoke name => (r.revoke name).1
  | .encrypt _ _ | .decrypt _ => r

def run (r : KeyRing) (calls : List Call) : KeyRing := calls.foldl step r

namespace Call

/-- What a call does to the accounts. -/
def act (x : Call) (a : Accounts) : Accounts :=
  match x with
  | register name d => a.register name d
  | revoke name => (a.revoke name).1
  | authenticate _ _ | logout | encrypt _ _ | decrypt _ => a

/-- A name is registered or revoked. -/
def Concerns (name : String) : Call → Prop
  | register name' _ | revoke name' => name = name'
  | authenticate _ _ | logout | encrypt _ _ | decrypt _ => False

end Call

/-- Credentials would be accepted. -/
def Admits (r : KeyRing) (c : Credentials) : Prop :=
  ∃ a, r.accounts = some a ∧ a.digest? c.username = some (.ofPassword c.password)

section Steps
variable {r : KeyRing} {x : Call} {c : Credentials} {fresh : Draw} {a : Accounts} {name user : String} {d : Digest}

theorem authenticate_of_admits (ha : r.accounts = some a) (h : a.digest? c.username = some (.ofPassword c.password)) :
    r.authenticate c fresh =
      ({ r with keys := some ⟨fresh.token, a.sharedKey.getD fresh.key⟩ }, .ok fresh.token) := by
  simp only [authenticate, ha, Accounts.authenticate_of_digest h]

theorem authenticate_of_not_admits (h : ¬ r.Admits c) (fresh : Draw) :
    ∃ why, r.authenticate c fresh = (r, .error (.rejected why)) := by
  cases ha : r.accounts with
  | none => exact ⟨.noBackend, by rw [authenticate, ha]⟩
  | some a =>
    obtain ⟨why, he⟩ := Accounts.authenticate_of_other (fun hd => h ⟨a, ha, hd⟩) fresh.token
    exact ⟨why, by simp only [authenticate, ha, he]⟩

theorem isOk_authenticate_iff : (r.authenticate c fresh).2.isOk ↔ r.Admits c := by
  by_cases h : r.Admits c
  · obtain ⟨a, ha, hd⟩ := h
    rw [authenticate_of_admits ha hd]
    exact iff_of_true rfl ⟨a, ha, hd⟩
  · obtain ⟨why, he⟩ := authenticate_of_not_admits h fresh
    rw [he]
    exact iff_of_false Bool.false_ne_true h

theorem accounts_step (r : KeyRing) (x : Call) : (r.step x).accounts = r.accounts.map x.act := by
  cases x with
  | authenticate c fresh =>
    rw [step, show Call.act (.authenticate c fresh) = id from rfl, Option.map_id_fun, id]
    by_cases h : r.Admits c
    · obtain ⟨a, ha, hd⟩ := h
      rw [authenticate_of_admits ha hd]
    · obtain ⟨why, he⟩ := authenticate_of_not_admits h fresh
      rw [he]
  | register name d => rfl
  | revoke name =>
    cases ha : r.accounts with
    | none => rw [step, KeyRing.revoke, ha, Option.map_none, ha]
    | some a => rw [step, KeyRing.revoke, ha]; rfl
  | logout | encrypt _ _ | decrypt _ => exact (congrFun Option.map_id_fun r.accounts).symm

/-- A call other than a sign-out or an accepted sign-in leaves token and key as they are. -/
theorem keys_step (hout : x ≠ .logout) (hin : ∀ c fresh, x = .authenticate c fresh → ¬ r.Admits c) :
    (r.step x).keys = r.keys := by
  cases x with
  | authenticate c fresh =>
    obtain ⟨why, he⟩ := authenticate_of_not_admits (hin c fresh rfl) fresh
    rw [step, he]
  | logout => exact absurd rfl hout
  | register name d => rfl
  | revoke name =>
    rw [step, KeyRing.revoke]
    cases r.accounts <;> rfl
  | encrypt _ _ | decrypt _ => rfl

theorem isAuthenticated_step :
    (r.step x).isAuthenticated ↔
      (∃ c fresh, x = .authenticate c fresh ∧ r.Admits c) ∨ r.isAuthenticated ∧ x ≠ .logout := by
  by_cases hout : x = .logout
  · subst hout
    simp [step, logout, isAuthenticated]
  · by_cases hin : ∃ c fresh, x = .authenticate c fresh ∧ r.Admits c
    · refine iff_of_true ?_ (.inl hin)
      obtain ⟨c, fresh, rfl, a, ha, hd⟩ := hin
      rw [step, authenticate_of_admits ha hd]
      rfl
    · have hkeys := keys_step hout fun c fresh hx hc => hin ⟨c, fresh, hx, hc⟩
      rw [isAuthenticated, isAuthenticated, hkeys, or_iff_right hin, and_iff_left hout]

theorem sharedKey_act (x : Call) (a : Accounts) : (x.act a).sharedKey = a.sharedKey := by
  cases x <;> rfl

theorem digest?_act :
    (x.act a).digest? user = some d ↔
      x = .register user d ∨ a.digest? user = some d ∧ ¬ x.Concerns user := by
  cases x with
  | register name d' =>
    rw [Call.act, Accounts.digest?_register, Call.Concerns]
    split
    · subst user
      simp [eq_comm]
    · rename_i hne
      simp [hne, Ne.symm hne]
  | revoke name =>
    rw [Call.act, Accounts.digest?_revoke, Call.Concerns]
    split <;> simp [*]
  | authenticate _ _ | logout | encrypt _ _ | decrypt _ => simp [Call.act, Call.Concerns]

/-- Without keys nothing is sealed, for just this reason. -/
theorem encrypt_eq_notAuthenticated_iff {nonce : Nonce} {message : Bytes} :
    r.encrypt nonce message = .error .notAuthenticated ↔ ¬ r.isAuthenticated := by
  rw [encrypt, isAuthenticated]
  cases r.keys with
  | none => simp
  | some keys => cases h : Sealed.ofMessage keys.key nonce message <;> simp [h]

/-- Without keys nothing long enough is opened, for just this reason. -/
theorem decrypt_eq_notAuthenticated_iff {box : Bytes} (h : Sealed.minSize ≤ box.length) :
    r.decrypt box = .error .notAuthenticated ↔ ¬ r.isAuthenticated := by
  rw [decrypt, if_neg (Nat.not_lt.2 h), isAuthenticated]
  cases r.keys with
  | none => simp
  | some keys => cases h : Sealed.toMessage? keys.key box <;> simp [h]

end Steps

/-! ## Runs -/

/-- A digest is in force for a name: it was registered, and since then the name was neither registered nor revoked. -/
def Registered (calls : List Call) (name : String) (d : Digest) : Prop :=
  Since (fun _ x => x = .register name d) (fun _ x => x.Concerns name) calls

section Runs
variable {r : KeyRing} {x : Call} {calls more : List Call} {shared : Option Key} {name : String} {d : Digest}

theorem run_append : r.run (calls ++ more) = (r.run calls).run more := List.foldl_append

theorem run_concat : r.run (calls ++ [x]) = (r.run calls).step x := by
  rw [run_append]
  rfl

theorem registered_concat :
    Registered (calls ++ [x]) name d ↔ x = .register name d ∨ Registered calls name d ∧ ¬ x.Concerns name :=
  Since.concat_iff

/-- Behind a session that accounts stand there are accounts after any calls: those, with a digest for each name that has
one in force. -/
theorem accounts_run (shared : Option Key) (calls : List Call) :
    ∃ a, ((ofAccounts { sharedKey := shared }).run calls).accounts = some a ∧ a.sharedKey = shared ∧
      ∀ name d, a.digest? name = some d ↔ Registered calls name d := by
  induction calls using List.reverseRecOn with
  | nil => exact ⟨_, rfl, rfl, fun name d => iff_of_false nofun Since.not_nil⟩
  | append_singleton calls x ih =>
    obtain ⟨a, ha, hshared, hd⟩ := ih
    refine ⟨x.act a, ?_, (sharedKey_act x a).trans hshared, fun name d => ?_⟩
    · rw [run_concat, accounts_step, ha, Option.map_some]
    · rw [digest?_act, hd, registered_concat]

theorem admits_run (shared : Option Key) (calls : List Call) (c : Credentials) :
    ((ofAccounts { sharedKey := shared }).run calls).Admits c ↔
      Registered calls c.username (.ofPassword c.password) := by
  obtain ⟨a, ha, -, hd⟩ := accounts_run shared calls
  rw [← hd, Admits, ha]
  simp

/-- The keys held are of the last sign-in. -/
theorem isAuthenticated_run (r : KeyRing) (h : r.keys = none) (calls : List Call) :
    (r.run calls).isAuthenticated ↔
      Since (fun before x => ∃ c fresh, x = .authenticate c fresh ∧ (r.run before).Admits c) (fun _ x => x = .logout)
        calls := by
  refine Since.of_steps (P := fun calls => (r.run calls).isAuthenticated) ?_ (fun calls x => ?_) calls
  · simp [run, isAuthenticated, h]
  · rw [run_concat, isAuthenticated_step]

/-- Where a key is shared, keys held are that. -/
theorem holds_run (key : Key) (calls : List Call)
    (h : ((ofAccounts { sharedKey := some key }).run calls).isAuthenticated) :
    ((ofAccounts { sharedKey := some key }).run calls).Holds key := by
  induction calls using List.reverseRecOn with
  | nil => cases h
  | append_singleton calls x ih =>
    rw [run_concat] at h ⊢
    obtain ⟨a, ha, hshared, -⟩ := accounts_run (some key) calls
    generalize (ofAccounts { sharedKey := some key }).run calls = r at *
    by_cases hin : ∃ c fresh, x = .authenticate c fresh ∧ r.Admits c
    · obtain ⟨c, fresh, rfl, a', ha', hd⟩ := hin
      obtain rfl := Option.some.inj (ha.symm.trans ha')
      rw [step, authenticate_of_admits ha hd, hshared]
      exact ⟨_, rfl, rfl⟩
    · obtain ⟨hr, hout⟩ := (isAuthenticated_step.1 h).resolve_left hin
      obtain ⟨keys, hk, he⟩ := ih hr
      exact ⟨keys, (keys_step hout fun c fresh hx hc => hin ⟨c, fresh, hx, hc⟩).trans hk, he⟩

theorem not_admits_of_none (h : r.accounts = none) (c : Credentials) : ¬ r.Admits c := by
  rintro ⟨a, ha, -⟩
  cases h.symm.trans ha

theorem accounts_run_of_none (h : r.accounts = none) (calls : List Call) : (r.run calls).accounts = none := by
  induction calls using List.reverseRecOn with
  | nil => exact h
  | append_singleton calls x ih => rw [run_concat, accounts_step, ih, Option.map_none]

/-- Without accounts there is no way but out. -/
theorem keys_run_of_none (h : r.accounts = none) (calls : List Call) :
    (.logout ∈ calls → (r.run calls).keys = none) ∧ (.logout ∉ calls → (r.run calls).keys = r.keys) := by
  induction calls using List.reverseRecOn with
  | nil => exact ⟨nofun, fun _ => rfl⟩
  | append_singleton calls x ih =>
    rw [run_concat]
    by_cases hout : x = .logout
    · subst hout
      exact ⟨fun _ => rfl, fun hn => absurd (by simp) hn⟩
    · have hkeys : ((r.run calls).step x).keys = (r.run calls).keys :=
        keys_step hout fun c _ _ => not_admits_of_none (accounts_run_of_none h calls) c
      have hmem : .logout ∈ calls ++ [x] ↔ .logout ∈ calls := by simp [Ne.symm hout]
      rwa [hkeys, hmem]

/-- What is sealed under a shared key opens wherever that key is held. -/
theorem decrypt_of_shared {key : Key} {r r' : KeyRing} {nonce : Nonce} {message box : Bytes} (hr : r.Holds key)
    (hr' : r'.Holds key) (h : r.encrypt nonce message = .ok box) : r'.decrypt box = .ok message := by
  rw [decrypt_eq_ok_iff_of_holds hr', ← decrypt_eq_ok_iff_of_holds hr]
  exact decrypt_encrypt h

end Runs

/-- Over any calls to a session that accounts stand behind, a sign-in is accepted exactly if the password has, octet by
octet, the digest in force for the name, and keys are held exactly if one was accepted since the last sign-out: those
it was given, since nothing but a sign-out or another sign-in changes them. With a shared key what is sealed once
opens whenever keys are held later. Signed in beforehand, a session keeps its keys until the first sign-out, and no
sign-in is ever accepted. No session seals or opens without keys, and it says so. -/
theorem keys_of_history (shared : Option Key) :
    let after (calls : List Call) := (ofAccounts { sharedKey := shared }).run calls
    (∀ calls c fresh, ((after calls).authenticate c fresh).2.isOk ↔
        ∃ d, Registered calls c.username d ∧ d.val = Sha256.digest c.password.toUTF8.toList) ∧
      (∀ calls, (after calls).isAuthenticated ↔
        Since (fun before x => ∃ c fresh, x = .authenticate c fresh ∧ ((after before).authenticate c fresh).2.isOk)
          (fun _ x => x = .logout) calls) ∧
      (∀ calls c fresh, ((after calls).authenticate c fresh).2.isOk →
        (after (calls ++ [.authenticate c fresh])).keys = some ⟨fresh.token, shared.getD fresh.key⟩) ∧
      (∀ calls x, x ≠ .logout →
        (∀ c fresh, x = .authenticate c fresh → ¬ ((after calls).authenticate c fresh).2.isOk) →
        (after (calls ++ [x])).keys = (after calls).keys) ∧
      (∀ calls nonce message box more, shared.isSome → (after calls).encrypt nonce message = .ok box →
        (after (calls ++ more)).isAuthenticated → (after (calls ++ more)).decrypt box = .ok message) ∧
      (∀ token key calls,
        let r := (preshared token key).run calls
        (.logout ∉ calls → r.keys = some ⟨token, key⟩) ∧ (.logout ∈ calls → r.keys = none) ∧
          ∀ c fresh, ¬ (r.authenticate c fresh).2.isOk) ∧
      ∀ (r : KeyRing) nonce message,
        (r.encrypt nonce message = .error .notAuthenticated ↔ ¬ r.isAuthenticated) ∧
        (r.isAuthenticated → message.length < Aead.limit → ∃ box, r.encrypt nonce message = .ok box) ∧
        ∀ box : Bytes, 28 ≤ box.length → (r.decrypt box = .error .notAuthenticated ↔ ¬ r.isAuthenticated) := by
  intro after
  have hkeys (calls : List Call) (x : Call) : after (calls ++ [x]) = (after calls).step x := run_concat
  refine ⟨?_, ?_, ?_, ?_, ?_, ?_, ?_⟩
  · intro calls c fresh
    rw [isOk_authenticate_iff, admits_run]
    constructor
    · intro h
      exact ⟨_, h, rfl⟩
    · rintro ⟨d, h, hd⟩
      obtain rfl : d = .ofPassword c.password := Subtype.ext hd
      exact h
  · intro calls
    simp only [isOk_authenticate_iff]
    exact isAuthenticated_run _ rfl calls
  · intro calls c fresh h
    obtain ⟨a, ha, hd⟩ := isOk_authenticate_iff.1 h
    obtain ⟨a', ha', hshared, -⟩ := accounts_run shared calls
    obtain rfl := Option.some.inj (ha.symm.trans ha')
    rw [hkeys, step, authenticate_of_admits ha hd, hshared]
  · intro calls x hout hin
    rw [hkeys]
    exact keys_step hout fun c fresh hx hc => hin c fresh hx (isOk_authenticate_iff.2 hc)
  · intro calls nonce message box more hsome he hauth
    obtain ⟨key, rfl⟩ := Option.isSome_iff_exists.1 hsome
    have hbefore : (after calls).isAuthenticated := by
      by_contra hn
      cases he.symm.trans (encrypt_eq_notAuthenticated_iff.2 hn)
    exact decrypt_of_shared (holds_run key calls hbefore) (holds_run key _ hauth) he
  · intro token key calls r
    have hnone : (preshared token key).accounts = none := rfl
    obtain ⟨hout, hin⟩ := keys_run_of_none hnone calls
    refine ⟨hin, hout, fun c fresh => ?_⟩
    rw [isOk_authenticate_iff]
    exact not_admits_of_none (accounts_run_of_none hnone calls) c
  · intro r nonce message
    refine ⟨encrypt_eq_notAuthenticated_iff, fun hr hm => ?_, fun box => decrypt_eq_notAuthenticated_iff⟩
    obtain ⟨keys, hk⟩ := Option.isSome_iff_exists.1 hr
    exact ⟨_, encrypt_eq_ok ⟨keys, hk, rfl⟩ nonce (Aead.fits_iff.2 hm)⟩

end KeyRing
end DeskStream
