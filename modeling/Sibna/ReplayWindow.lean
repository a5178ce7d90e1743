import Mathlib.Data.List.Induction
import Sibna.Lib.Maps
import Sibna.Symbolic

/-!
# The replay window of the encryptor

A number is forgotten when its message has become too old for the age check.
-/

namespace Sibna

open LittleEndian

variable {S : Suite}

/-- What was sealed with associated data opens with no other. -/
def Suite.BindingAead (S : Suite) : Prop :=
  ∀ {k : S.Key} {n ad ad' m m' : Bytes}, ad ≠ [] → ad' ≠ [] →
    S.aeadDecrypt k n ad' (S.aeadEncrypt k n ad m) = some m' → ad' = ad

namespace Encryptor

structure Send where
  clock : Clock
  nonce : Option (FixedBytes 12)
  plaintext : Bytes
  associatedData : Bytes

structure Sealed where
  bytes : Bytes
  plaintext : Bytes
  associatedData : Bytes
  deriving DecidableEq

def Sealed.number (x : Sealed) : Nat := fromLe (x.bytes.take 8)

def Sealed.timestamp (x : Sealed) : Nat := innerTimestamp x.bytes

def sealAll : Encryptor S → List Send → List Sealed × Encryptor S
  | e, [] => ([], e)
  | e, x :: sends =>
    match e.encryptMessage (x.clock.read .encryptor) x.nonce x.plaintext x.associatedData with
    | (.error _, e') => sealAll e' sends
    | (.ok bytes, e') =>
      (⟨bytes, x.plaintext, x.associatedData⟩ :: (sealAll e' sends).1, (sealAll e' sends).2)

def Sealed.Under (key : S.Key) (x : Sealed) : Prop :=
  ∃ n t, n < 2 ^ 64 ∧ t < 2 ^ 64 ∧ ∃ nonce : FixedBytes 12,
    x.bytes = buildHeader n t ++ (nonce.val ++
      S.aeadEncrypt key nonce.val (x.associatedData ++ buildHeader n t) x.plaintext)

lemma encryptMessage_cases (e : Encryptor S) (x : Send) :
    (∃ err, e.encryptMessage (x.clock.read .encryptor) x.nonce x.plaintext x.associatedData =
      (.error err, e)) ∨
    ∃ bytes e', e.encryptMessage (x.clock.read .encryptor) x.nonce x.plaintext x.associatedData =
        (.ok bytes, e') ∧
      e'.cipher = e.cipher ∧ e'.messageNumber = saturatingAdd e.messageNumber 1 ∧
      (e.messageNumber < 2 ^ 64 → (⟨bytes, x.plaintext, x.associatedData⟩ : Sealed).Under e.cipher ∧
        (⟨bytes, x.plaintext, x.associatedData⟩ : Sealed).number = e.messageNumber) := by
  unfold encryptMessage
  cases hb : e.encryptBytes (x.clock.read .encryptor) x.nonce x.plaintext x.associatedData with
  | error err => exact .inl ⟨err, rfl⟩
  | ok bytes =>
    refine .inr ⟨bytes, _, rfl, rfl, rfl, fun hn => ?_⟩
    obtain ⟨-, -, -, n, t, -, hre, rfl⟩ := encryptBytes_ok hb
    have ht : t < 2 ^ 64 := by
      have hlt := x.clock.read_lt .encryptor t hre
      omega
    exact ⟨⟨e.messageNumber, t, hn, ht, n, rfl⟩, number_wire hn _⟩

lemma sealAll_spec {key : S.Key} {e : Encryptor S} (hk : e.cipher = key) (se : List Send)
    (hco : (sealAll e se).2.messageNumber < 2 ^ 64 - 1) :
    e.messageNumber ≤ (sealAll e se).2.messageNumber ∧
    (∀ x ∈ (sealAll e se).1, x.Under key ∧ e.messageNumber ≤ x.number) ∧
    (sealAll e se).1.Pairwise fun x y => x.number < y.number := by
  induction se generalizing e with
  | nil => exact ⟨Nat.le_refl _, nofun, .nil⟩
  | cons send se ih =>
    rcases encryptMessage_cases e send with ⟨err, heq⟩ | ⟨bt, e', heq, hci, hne, hb⟩
    · simp only [sealAll, heq] at hco ⊢
      exact ih hk hco
    simp only [sealAll, heq] at hco ⊢
    obtain ⟨hle, hal, hri⟩ := ih (hci.trans hk) hco
    rw [saturatingAdd] at hne
    obtain ⟨hu, hn⟩ := hb (by omega)
    rw [hk] at hu
    refine ⟨by omega, ?_, List.pairwise_cons.mpr ⟨?_, hri⟩⟩
    · intro x hx
      rcases List.mem_cons.mp hx with rfl | hx
      · exact ⟨hu, Nat.le_of_eq hn.symm⟩
      · have hn' := (hal x hx).2
        exact ⟨(hal x hx).1, by omega⟩
    · intro x hx
      have hn' := (hal x hx).2
      omega

lemma eq_of_number_eq {sent : List Sealed} (h : sent.Pairwise fun x y => x.number < y.number)
    {x y : Sealed} (hx : x ∈ sent) (hy : y ∈ sent) (heq : x.number = y.number) : x = y := by
  have hn := List.pairwise_map.mpr (h.imp Nat.ne_of_lt)
  exact List.inj_on_of_nodup_map hn hx hy heq

structure Delivery where
  clock : Clock
  message : Sealed
  associatedData : Bytes

def receive (e : Encryptor S) (ds : List Delivery) : Encryptor S :=
  ds.foldl (fun e d => (e.decryptMessage d.clock d.message.bytes d.associatedData).2) e

namespace Delivery

def InWindow (d : Delivery) : Prop :=
  ∃ now, d.clock.read .encryptor = some now ∧ d.message.timestamp ≤ now + clockSkewToleranceSecs ∧
    now ≤ d.message.timestamp + maxMessageAgeSecs

def Proper (d : Delivery) : Prop := d.associatedData = d.message.associatedData ∧ d.InWindow

def readings (d : Delivery) : List (Option Nat) :=
  [d.clock.read .encryptor, d.clock.read .seenNumbers]

end Delivery

def NotAfter (a b : Option Nat) : Prop := ∀ t, a = some t → ∃ t', b = some t' ∧ t ≤ t'

def NonDecreasing (ds : List Delivery) : Prop := (ds.flatMap Delivery.readings).Pairwise NotAfter

lemma NonDecreasing.own {ds : List Delivery} (h : NonDecreasing ds) {d : Delivery} (hd : d ∈ ds) :
    NotAfter (d.clock.read .encryptor) (d.clock.read .seenNumbers) := by
  have hre := (List.pairwise_flatMap.mp h).1 d hd
  rwa [Delivery.readings, List.pairwise_pair] at hre

lemma NonDecreasing.earlier {ea l : List Delivery} {d : Delivery}
    (h : NonDecreasing (ea ++ d :: l)) {d' : Delivery} (hd' : d' ∈ ea) :
    NotAfter (d'.clock.read .seenNumbers) (d.clock.read .encryptor) := by
  have hac := (List.pairwise_append.mp (List.pairwise_flatMap.mp h).2).2.2 d' hd' d (.head _)
  exact hac _ (by simp [Delivery.readings]) _ (by simp [Delivery.readings])

section
variable {key : S.Key} {e : Encryptor S} {d : Delivery}

lemma decryptMessage_under (hA : S.CorrectAead) (hk : e.cipher = key)
    (hu : d.message.Under key) : ∃ nonce header box, header ≠ [] ∧
      box = S.aeadEncrypt key nonce (d.message.associatedData ++ header) d.message.plaintext ∧
      (e.decryptMessage d.clock d.message.bytes d.associatedData).1 =
        match d.clock.read .encryptor with
        | none => .error .encryptionFailed
        | some now =>
          if d.message.timestamp > now + clockSkewToleranceSecs then .error .invalidCiphertext
          else if now > d.message.timestamp + maxMessageAgeSecs then .error .invalidCiphertext
          else if (e.seenNumbers.lookup d.message.number).isSome then .error .authenticationFailed
          else
            match S.aeadDecrypt key nonce (d.associatedData ++ header) box with
            | none => .error .authenticationFailed
            | some plaintext => .ok plaintext := by
  obtain ⟨n, t, hn, ht, nonce, hb⟩ := hu
  have hnu : d.message.number = n := by rw [Sealed.number, hb, number_wire hn]
  have hti : d.message.timestamp = t := by rw [Sealed.timestamp, hb, innerTimestamp_wire ht]
  have hh : buildHeader n t ≠ [] := List.ne_nil_of_length_pos (by simp)
  refine ⟨nonce.val, buildHeader n t, _, hh, rfl, ?_⟩
  rw [decryptMessage_fst, hnu, hti, hb, ← hk]
  exact decryptBytes_wire e _ _ hn ht nonce (hA.tag_length _ _ _ _)

lemma decryptMessage_proper (hA : S.CorrectAead) (hk : e.cipher = key)
    (hu : d.message.Under key) (hpr : d.Proper) :
    (e.decryptMessage d.clock d.message.bytes d.associatedData).1 =
      if (e.seenNumbers.lookup d.message.number).isSome then .error .authenticationFailed
      else .ok d.message.plaintext := by
  obtain ⟨had, now, hre, hsk, hag⟩ := hpr
  obtain ⟨n, he, box, -, rfl, heq⟩ := decryptMessage_under hA hk hu
  rw [heq, hre, had]
  simp only [Nat.not_lt.mpr hsk, Nat.not_lt.mpr hag, if_false, hA.decrypt_encrypt]

lemma decryptMessage_not_proper (hA : S.CorrectAead) (hB : S.BindingAead) (hk : e.cipher = key)
    (hu : d.message.Under key) (hpr : ¬ d.Proper) :
    ∃ err, (e.decryptMessage d.clock d.message.bytes d.associatedData).1 = .error err := by
  obtain ⟨n, he, box, hh, rfl, heq⟩ := decryptMessage_under (e := e) hA hk hu
  rw [heq]
  cases hre : d.clock.read .encryptor with
  | none => exact ⟨_, rfl⟩
  | some now =>
    simp only
    split_ifs with hsk hag hse
    · exact ⟨_, rfl⟩
    · exact ⟨_, rfl⟩
    · exact ⟨_, rfl⟩
    split
    · exact ⟨_, rfl⟩
    rename_i ho
    have had := hB (List.append_ne_nil_of_right_ne_nil _ hh)
      (List.append_ne_nil_of_right_ne_nil _ hh) ho
    have hw : d.InWindow := ⟨now, hre, Nat.not_lt.mp hsk, Nat.not_lt.mp hag⟩
    exact absurd ⟨List.append_cancel_right had, hw⟩ hpr

lemma decryptMessage_snd (e : Encryptor S) (d : Delivery) :
    (e.decryptMessage d.clock d.message.bytes d.associatedData).2 =
      match (e.decryptMessage d.clock d.message.bytes d.associatedData).1 with
      | .error _ => e
      | .ok _ => e.updateSeenNumbers (d.clock.read .seenNumbers) d.message.number
          d.message.timestamp := by
  unfold decryptMessage
  cases e.decryptBytes _ d.message.bytes d.associatedData <;> rfl

end

lemma lookup_updateSeenNumbers (e : Encryptor S) (now mn ti n t : Nat) :
    (e.updateSeenNumbers (some now) mn ti).seenNumbers.lookup n = some t ↔
    (e.seenNumbers.insert mn ti).lookup n = some t ∧ now - maxMessageAgeSecs ≤ t := by
  have hta : (e.updateSeenNumbers (some now) mn ti).seenNumbers =
      ((e.seenNumbers.insert mn ti).entries.filter fun en =>
        decide (now - maxMessageAgeSecs ≤ en.2)).toAList := rfl
  rw [hta, Maps.lookup_filter, Option.filter_eq_some_iff, decide_eq_true_eq]

structure Tracks (key : S.Key) (e : Encryptor S) (ds : List Delivery) : Prop where
  cipher : e.cipher = key
  seen : ∀ n, (e.seenNumbers.lookup n).isSome = true → ∃ d ∈ ds, d.Proper ∧ d.message.number = n
  kept : ∀ d ∈ ds, d.Proper →
    e.seenNumbers.lookup d.message.number = some d.message.timestamp ∨
      ∃ d' ∈ ds, ∃ t, d'.clock.read .seenNumbers = some t ∧
        d.message.timestamp + maxMessageAgeSecs < t

namespace Tracks
variable {key : S.Key} {e : Encryptor S} {ds : List Delivery} {d : Delivery}

lemma snoc (h : Tracks key e ds)
    (hd : d.Proper → ∃ d' ∈ ds, d'.Proper ∧ d'.message = d.message) : Tracks key e (ds ++ [d]) where
  cipher := h.cipher
  seen n hn := by
    obtain ⟨d', hd', hpr, hnu⟩ := h.seen n hn
    exact ⟨d', List.mem_append_left _ hd', hpr, hnu⟩
  kept d' hd' hpr := by
    have ho : ∃ d₀ ∈ ds, d₀.Proper ∧ d₀.message = d'.message := by
      rcases List.mem_append.mp hd' with hd' | hd'
      · exact ⟨d', hd', hpr, rfl⟩
      · simp_all
    obtain ⟨d₀, hd₀, hp₀, heq⟩ := ho
    rw [← heq]
    rcases h.kept d₀ hd₀ hp₀ with hl | ⟨d₁, hd₁, t, hre, ho⟩
    · exact .inl hl
    · exact .inr ⟨d₁, List.mem_append_left _ hd₁, t, hre, ho⟩

lemma accepted (h : Tracks key e ds) (hpr : d.Proper)
    (ho : NotAfter (d.clock.read .encryptor) (d.clock.read .seenNumbers))
    (hu : e.seenNumbers.lookup d.message.number = none) :
    Tracks key (e.updateSeenNumbers (d.clock.read .seenNumbers) d.message.number
      d.message.timestamp) (ds ++ [d]) := by
  have hw := hpr.2
  obtain ⟨now, hre, -, -⟩ := hw
  obtain ⟨now', hr', -⟩ := ho now hre
  rw [hr']
  -- what is in the table before the old entries go either stays or is too old now
  have hst : ∀ n t, (e.seenNumbers.insert d.message.number d.message.timestamp).lookup n = some t →
      (e.updateSeenNumbers (some now') d.message.number
        d.message.timestamp).seenNumbers.lookup n = some t ∨
      ∃ d' ∈ ds ++ [d], ∃ t', d'.clock.read .seenNumbers = some t' ∧
        t + maxMessageAgeSecs < t' := by
    intro n t hl
    by_cases hcu : now' - maxMessageAgeSecs ≤ t
    · exact .inl ((lookup_updateSeenNumbers e _ _ _ n t).mpr ⟨hl, hcu⟩)
    · exact .inr ⟨d, by simp, now', hr', by omega⟩
  refine ⟨h.cipher, ?_, ?_⟩
  · intro n hn
    obtain ⟨t, ht⟩ := Option.isSome_iff_exists.mp hn
    have hin := ((lookup_updateSeenNumbers e _ _ _ n t).mp ht).1
    by_cases heq : n = d.message.number
    · exact ⟨d, by simp, hpr, heq.symm⟩
    · rw [AList.lookup_insert_ne heq] at hin
      obtain ⟨d', hd', hp', hnu⟩ := h.seen n (by rw [hin]; rfl)
      exact ⟨d', List.mem_append_left _ hd', hp', hnu⟩
  · intro d' hd' hp'
    rcases List.mem_append.mp hd' with hd' | hd'
    · rcases h.kept d' hd' hp' with hl | ⟨d₁, hd₁, t, hr₁, hol⟩
      · have hne : d'.message.number ≠ d.message.number := by
          intro heq
          rw [heq, hu] at hl
          cases hl
        refine hst _ _ ?_
        rwa [AList.lookup_insert_ne hne]
      · exact .inr ⟨d₁, List.mem_append_left _ hd₁, t, hr₁, hol⟩
    · obtain rfl := List.mem_singleton.mp hd'
      exact hst _ _ (AList.lookup_insert _)

variable {sent : List Sealed}

section
variable (hA : S.CorrectAead) (hB : S.BindingAead)
  (hse : sent.Pairwise fun x y => x.number < y.number) (hu : ∀ x ∈ sent, x.Under key)
include hA hB hse hu

lemma step (h : Tracks key e ds) (hds : ∀ d' ∈ ds ++ [d], d'.message ∈ sent)
    (ho : NotAfter (d.clock.read .encryptor) (d.clock.read .seenNumbers)) :
    Tracks key (e.decryptMessage d.clock d.message.bytes d.associatedData).2 (ds ++ [d]) := by
  have hm := hds d (by simp)
  rw [decryptMessage_snd]
  by_cases hpr : d.Proper
  · rw [decryptMessage_proper hA h.cipher (hu _ hm) hpr]
    cases hl : e.seenNumbers.lookup d.message.number with
    | none => exact h.accepted hpr ho hl
    | some t =>
      obtain ⟨d', hd', hp', hn⟩ := h.seen _ (by rw [hl]; rfl)
      refine h.snoc fun _ => ⟨d', hd', hp', ?_⟩
      exact eq_of_number_eq hse (hds d' (List.mem_append_left _ hd')) hm hn
  · obtain ⟨err, her⟩ := decryptMessage_not_proper hA hB h.cipher (hu _ hm) hpr
    rw [her]
    exact h.snoc fun hd => absurd hd hpr

lemma run (hds : ∀ d ∈ ds, d.message ∈ sent)
    (ho : ∀ d ∈ ds, NotAfter (d.clock.read .encryptor) (d.clock.read .seenNumbers))
    (h : Tracks key e []) : Tracks key (receive e ds) ds := by
  induction ds using List.reverseRecOn with
  | nil => exact h
  | append_singleton ds d ih =>
    have hol := ih (fun d' hd' => hds d' (List.mem_append_left _ hd'))
      fun d' hd' => ho d' (List.mem_append_left _ hd')
    rw [receive, List.foldl_append]
    exact hol.step hA hB hse hu hds (ho d (by simp))

end

lemma seen_again {ea l : List Delivery} {d' : Delivery} (h : Tracks key e ea)
    (hcl : NonDecreasing (ea ++ d :: l)) (heq : d'.message = d.message)
    (hd' : d' ∈ ea) (hp' : d'.Proper) (hpr : d.Proper) :
    (e.seenNumbers.lookup d.message.number).isSome = true := by
  rw [← heq]
  rcases h.kept d' hd' hp' with hl | ⟨d₁, hd₁, t, hre, ho⟩
  · rw [hl]
    rfl
  obtain ⟨-, now, hn, -, hag⟩ := hpr
  obtain ⟨now', hn', hle⟩ := hcl.earlier hd₁ t hre
  cases hn.symm.trans hn'
  rw [heq] at ho
  omega

lemma fresh (key : S.Key) (n m : Nat) : Tracks key (⟨key, n, n, ∅, m⟩ : Encryptor S) [] where
  cipher := rfl
  seen n hn := by
    cases hn
  kept d hd := absurd hd List.not_mem_nil

end Tracks

def Delivery.First (earlier : List Delivery) (d : Delivery) : Prop :=
  d.Proper ∧ ∀ d' ∈ earlier, d'.Proper → d'.message.bytes ≠ d.message.bytes

/-- In every run of deliveries of what one encryptor sealed to another one with the same key, by a
clock that does not go back: a delivery is accepted if it is the first of its ciphertext with its
associated data inside the window, and rejected otherwise. -/
theorem accepted_iff_first (hA : S.CorrectAead) (hB : S.BindingAead) {key : S.Key} {n n' : Nat}
    {sender receiver : Encryptor S} (hsender : new key n = .ok sender)
    (hreceiver : new key n' = .ok receiver) (sends : List Send)
    (hcounter : (sealAll sender sends).2.messageNumber < 2 ^ 64 - 1) (ds : List Delivery)
    (hds : ∀ d ∈ ds, d.message ∈ (sealAll sender sends).1) (hclock : NonDecreasing ds)
    (earlier later : List Delivery) (d : Delivery) (hsplit : ds = earlier ++ d :: later) :
    (d.First earlier →
      ((receive receiver earlier).decryptMessage d.clock d.message.bytes d.associatedData).1 =
        .ok d.message.plaintext) ∧
    (¬ d.First earlier → ∃ err,
      ((receive receiver earlier).decryptMessage d.clock d.message.bytes d.associatedData).1 =
        .error err) := by
  subst hsplit
  have hkey : sender.cipher = key := by
    rw [(new_ok hsender).2]
  obtain ⟨-, hunder, hsent⟩ := sealAll_spec hkey sends hcounter
  have hmem := fun d' hd' => hds d' (List.mem_append_left _ hd')
  have hown := hds d (by simp)
  have htracks : Tracks key (receive receiver earlier) earlier := by
    refine Tracks.run hA hB hsent (fun x hx => (hunder x hx).1) hmem
      (fun d' hd' => hclock.own (List.mem_append_left _ hd')) ?_
    rw [(new_ok hreceiver).2]
    exact Tracks.fresh key n' _
  by_cases hproper : d.Proper
  · rw [decryptMessage_proper hA htracks.cipher (hunder _ hown).1 hproper]
    refine ⟨fun hfirst => if_neg ?_, fun hfirst => ⟨_, if_pos ?_⟩⟩
    · intro hseen
      obtain ⟨d', hd', hproper', hnumber⟩ := htracks.seen _ hseen
      refine hfirst.2 d' hd' hproper' ?_
      rw [eq_of_number_eq hsent (hmem d' hd') hown hnumber]
    · obtain ⟨d', hd', hproper', hbytes⟩ :
          ∃ d' ∈ earlier, d'.Proper ∧ d'.message.bytes = d.message.bytes := by
        by_contra hnone
        exact hfirst ⟨hproper, fun d' hd' hproper' hbytes => hnone ⟨d', hd', hproper', hbytes⟩⟩
      exact htracks.seen_again hclock (eq_of_number_eq hsent (hmem d' hd') hown
        (by rw [Sealed.number, Sealed.number, hbytes])) hd' hproper' hproper
  · refine ⟨fun hfirst => absurd hfirst.1 hproper, fun _ => ?_⟩
    exact decryptMessage_not_proper hA hB htracks.cipher (hunder _ hown).1 hproper

section
open Sibna.Symbolic

lemma bindingAead : suite.BindingAead := by
  intro k n ad ad' m m' had ha' ho
  have ht' := tag_suffix ho
  have ht : tag k n ad <:+ suite.aeadEncrypt k n ad m := List.suffix_append m (tag k n ad)
  simp only [tag, had, ha', if_false] at ht ht'
  rw [← List.reverse_prefix, List.reverse_reverse] at ht ht'
  exact List.append_cancel_left (encodeKey_append_inj (terminated_unique ht' ht)).2

def windowKey : suite.Key := (suite.hkdfSession secret).2

def windowEncryptor : Encryptor suite := ⟨windowKey, 5, 5, ∅, 100000⟩

def windowSend : Send := ⟨Clock.at 100 (by decide), some ⟨List.replicate 12 1, by simp⟩, [7], [8]⟩

def windowMessage : Sealed where
  bytes := buildHeader 5 100 ++ (List.replicate 12 1 ++
    suite.aeadEncrypt windowKey (List.replicate 12 1) ([8] ++ buildHeader 5 100) [7])
  plaintext := [7]
  associatedData := [8]

lemma sealed_windowSend : (sealAll windowEncryptor [windowSend]).1 = [windowMessage] ∧
    (sealAll windowEncryptor [windowSend]).2.messageNumber = 6 ∧ windowMessage.timestamp = 100 := by
  decide +kernel

def windowDelivery (t : Nat) (h : t < 2 ^ 63) : Delivery := ⟨Clock.at t h, windowMessage, [8]⟩

lemma windowDelivery_proper {t : Nat} (h : t < 2 ^ 63) (hf : 100 ≤ t) (hto : t ≤ 86500) :
    (windowDelivery t h).Proper := by
  have hti : (windowDelivery t h).message.timestamp = 100 := sealed_windowSend.2.2
  refine ⟨rfl, t, rfl, ?_, ?_⟩
  · omega
  · rw [hti, maxMessageAgeSecs]
    omega

theorem second_delivery_rejected :
    (windowEncryptor.decryptMessage (Clock.at 100 (by decide)) windowMessage.bytes [8]).1 =
        .ok [7] ∧
      ∃ err, ((receive windowEncryptor [windowDelivery 100 (by decide)]).decryptMessage
        (Clock.at 86500 (by decide)) windowMessage.bytes [8]).1 = .error err := by
  have hnew : new windowKey 5 = .ok windowEncryptor := new_of_not_weak (by decide +kernel) 5
  have hcounter : (sealAll windowEncryptor [windowSend]).2.messageNumber < 2 ^ 64 - 1 := by
    rw [sealed_windowSend.2.1]
    decide
  have hds : ∀ d ∈ [windowDelivery 100 (by decide), windowDelivery 86500 (by decide)],
      d.message ∈ (sealAll windowEncryptor [windowSend]).1 := by
    rw [sealed_windowSend.1]
    simp [windowDelivery]
  have hclock : NonDecreasing [windowDelivery 100 (by decide),
    windowDelivery 86500 (by decide)] := by
    simp [NonDecreasing, NotAfter, Delivery.readings, windowDelivery, Clock.at]
  have hproper : (windowDelivery 100 (by decide)).Proper :=
    windowDelivery_proper _ (by omega) (by omega)
  refine ⟨?_, ?_⟩
  · exact (accepted_iff_first correctAead bindingAead hnew hnew
      [windowSend] hcounter _ hds hclock []
      [windowDelivery 86500 (by decide)] (windowDelivery 100 (by decide)) rfl).1
      ⟨hproper, fun d hd => absurd hd List.not_mem_nil⟩
  · exact (accepted_iff_first correctAead bindingAead hnew hnew [windowSend] hcounter _ hds hclock
      [windowDelivery 100 (by decide)] [] (windowDelivery 86500 (by decide)) rfl).2
      fun hfirst => hfirst.2 _ List.mem_cons_self hproper rfl

end

end Encryptor

end Sibna
