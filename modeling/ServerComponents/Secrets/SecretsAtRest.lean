import Mathlib.Data.List.Find
import Mathlib.Logic.Function.Basic
import ServerComponents.Basics

/-!
# Secrets at rest

The values of `config_secrets` are encrypted under one key.  An encrypted value is told
by the version that it begins with; any other value is plain text from before.
-/

namespace ServerComponents
namespace Secrets

/-- A blob, and a `std::string` as well: names and values are any bytes. -/
abbrev Blob := List UInt8

structure SecretBox where
  secretbox : (plaintext nonce key : Blob) -> Blob
  /-- `none` when the authentication fails. -/
  secretboxOpen : (cipher nonce key : Blob) -> Option Blob
  bin2base64 : Blob -> Blob
  /-- `none` for malformed input. -/
  base642bin : Blob -> Option Blob
  open_secretbox : forall plaintext nonce key,
    secretboxOpen (secretbox plaintext nonce key) nonce key = some plaintext
  secretbox_length : forall plaintext nonce key, 16 ≤ (secretbox plaintext nonce key).length
  base642bin_bin2base64 : forall blob, base642bin (bin2base64 blob) = some blob

def kKeyBytes : Nat := 32
def kNonceBytes : Nat := 24
def kMacBytes : Nat := 16

structure Nonce where
  bytes : Blob
  size : bytes.length = kNonceBytes

/-- The constructor refuses a key of any other size. -/
structure SecretsAtRest where
  key : Blob
  size : key.length = kKeyBytes

def kVersionPrefix : Blob := [118, 49, 58]

def isEncrypted (value : Blob) : Bool :=
  decide (value.take kVersionPrefix.length = kVersionPrefix)

variable (box : SecretBox)

namespace SecretsAtRest

def encrypt (atRest : SecretsAtRest) (nonce : Nonce) (plaintext : Blob) : Blob :=
  kVersionPrefix ++
    box.bin2base64 (nonce.bytes ++ box.secretbox plaintext nonce.bytes atRest.key)

def decrypt (atRest : SecretsAtRest) (value : Blob) : Except Exn Blob :=
  if isEncrypted value = false then .ok value
  else
    match box.base642bin (value.drop kVersionPrefix.length) with
    | none => .error (.runtimeError "SecretsAtRest::Decrypt: invalid encoded value")
    | some combined =>
        if combined.length < kNonceBytes + kMacBytes then
          .error (.runtimeError "SecretsAtRest::Decrypt: encoded value too short")
        else
          match box.secretboxOpen (combined.drop kNonceBytes) (combined.take kNonceBytes)
              atRest.key with
          | none => .error (.runtimeError
              "SecretsAtRest::Decrypt: authentication failed (tampered or wrong key)")
          | some plaintext => .ok plaintext

theorem isEncrypted_encrypt (atRest : SecretsAtRest) (nonce : Nonce) (plaintext : Blob) :
    isEncrypted (atRest.encrypt box nonce plaintext) = true := by
  unfold isEncrypted encrypt
  rw [List.take_left' rfl]
  simp

theorem decrypt_encrypt (atRest : SecretsAtRest) (nonce : Nonce) (plaintext : Blob) :
    atRest.decrypt box (atRest.encrypt box nonce plaintext) = .ok plaintext := by
  have hbody : (atRest.encrypt box nonce plaintext).drop kVersionPrefix.length =
      box.bin2base64 (nonce.bytes ++ box.secretbox plaintext nonce.bytes atRest.key) :=
    List.drop_left' rfl
  have hlength : Not ((nonce.bytes ++
      box.secretbox plaintext nonce.bytes atRest.key).length < kNonceBytes + kMacBytes) := by
    rw [List.length_append, nonce.size]
    have hmac := box.secretbox_length plaintext nonce.bytes atRest.key
    unfold kMacBytes
    omega
  unfold decrypt
  rw [isEncrypted_encrypt, if_neg (by decide), hbody, box.base642bin_bin2base64]
  simp only [hlength, if_false]
  rw [List.drop_left' nonce.size, List.take_left' nonce.size, box.open_secretbox]

theorem decrypt_plaintext (atRest : SecretsAtRest) {value : Blob}
    (h : isEncrypted value = false) : atRest.decrypt box value = .ok value := by
  rw [decrypt, if_pos h]

end SecretsAtRest

/-!
# The table
-/

/-- The rows of `config_secrets`.  The name is a unique column that may be null, and a null
value reads as the empty one. -/
structure ConfigSecrets where
  rows : List (Option Blob × Blob)
  names : (rows.filterMap Prod.fst).Nodup

namespace ConfigSecrets

def addSecret (t : ConfigSecrets) (name value : Blob) : ConfigSecrets where
  rows := t.rows.filter (fun row => decide (row.1 ≠ some name)) ++ [(some name, value)]
  names := by
    rw [List.filterMap_append, List.nodup_append]
    refine ⟨t.names.sublist (List.filter_sublist.filterMap Prod.fst), by simp, ?_⟩
    intro name' hname' name'' hname'' heq
    rcases List.mem_filterMap.mp hname' with ⟨row, hrow, hrowname⟩
    have hne := (List.mem_filter.mp hrow).2
    rw [hrowname, heq, List.mem_singleton.mp hname''] at hne
    simp at hne

def lookupSecret (t : ConfigSecrets) (name : Blob) : Blob :=
  ((t.rows.find? (fun row => decide (row.1 = some name))).map Prod.snd).getD []

def Named (t : ConfigSecrets) : Prop :=
  forall row, row ∈ t.rows -> row.1 ≠ none

theorem Named.addSecret {t : ConfigSecrets} (h : t.Named) (name value : Blob) :
    (t.addSecret name value).Named := by
  intro row hrow
  rcases List.mem_append.mp hrow with hold | hadded
  · exact h row (List.mem_filter.mp hold).1
  · rw [List.mem_singleton.mp hadded]
    exact Option.some_ne_none name

end ConfigSecrets

def lookupSecret (secretsAtRest : Option SecretsAtRest) (t : ConfigSecrets)
    (name : Blob) : Except Exn Blob :=
  match secretsAtRest with
  | none => .ok (t.lookupSecret name)
  | some atRest => atRest.decrypt box (t.lookupSecret name)

/-- The loop over the rows that were read; the nonces are used in their order, and the
result counts the rows that were rewritten.  A null name reads as the empty one. -/
def migrateRows (atRest : SecretsAtRest) (nonces : Nat -> Nonce) :
    List (Option Blob × Blob) -> ConfigSecrets -> Nat -> ConfigSecrets × Nat
  | [], t, rewritten => (t, rewritten)
  | row :: rows, t, rewritten =>
      if isEncrypted row.2 then migrateRows atRest nonces rows t rewritten
      else
        migrateRows atRest nonces rows
          (t.addSecret (row.1.getD []) (atRest.encrypt box (nonces rewritten) row.2))
          (rewritten + 1)

def migrateSecretsToEncrypted (secretsAtRest : Option SecretsAtRest) (nonces : Nat -> Nonce)
    (t : ConfigSecrets) : ConfigSecrets × Nat :=
  match secretsAtRest with
  | none => (t, 0)
  | some atRest => migrateRows box atRest nonces t.rows t 0

/-!
# The migration
-/

section Migration

variable {box : SecretBox} {atRest : SecretsAtRest} {t : ConfigSecrets} {name value : Blob}

theorem lookupSecret_of_mem (h : (some name, value) ∈ t.rows) :
    t.lookupSecret name = value := by
  have hnames := t.names
  unfold ConfigSecrets.lookupSecret
  generalize t.rows = rows at h hnames
  induction rows with
  | nil => cases h
  | cons row rest ih =>
      rcases List.mem_cons.mp h with heq | hmem
      · rw [← heq]
        simp
      · have hname : name ∈ rest.filterMap Prod.fst :=
          List.mem_filterMap.mpr ⟨_, hmem, rfl⟩
        have hrest : (rest.filterMap Prod.fst).Nodup :=
          hnames.sublist ((List.sublist_cons_self row rest).filterMap Prod.fst)
        have hne : row.1 ≠ some name := by
          intro heq
          rw [List.filterMap_cons_some heq] at hnames
          exact (List.nodup_cons.mp hnames).1 hname
        rw [List.find?_cons_of_neg (by simpa using hne)]
        exact ih hmem hrest

theorem lookupSecret_addSecret (t : ConfigSecrets) (name value : Blob) :
    (t.addSecret name value).lookupSecret name = value :=
  lookupSecret_of_mem (List.mem_append_right _ (List.mem_singleton_self _))

theorem lookupSecret_addSecret_of_ne {name' : Blob} (h : name' ≠ name) :
    (t.addSecret name value).lookupSecret name' = t.lookupSecret name' := by
  have hlast : [(some name, value)].find? (fun row => decide (row.1 = some name')) = none := by
    simp [Ne.symm h]
  have hkept : (t.rows.filter (fun row => decide (row.1 ≠ some name))).find?
      (fun row => decide (row.1 = some name')) =
        t.rows.find? (fun row => decide (row.1 = some name')) := by
    rw [List.find?_filter]
    apply List.find?_congr
    intro row _
    by_cases hrow : row.1 = some name'
    · simp [hrow, h]
    · simp [hrow]
  unfold ConfigSecrets.lookupSecret ConfigSecrets.addSecret
  simp only [List.find?_append, hlast, hkept, Option.or_none]

/-- What the loop leaves: every key means what it meant, and a value that is not encrypted
is one that was not reached. -/
structure Migrates (box : SecretBox) (atRest : SecretsAtRest)
    (rows : List (Option Blob × Blob)) (t t' : ConfigSecrets) : Prop where
  lookup : forall name, atRest.decrypt box (t'.lookupSecret name) =
    atRest.decrypt box (t.lookupSecret name)
  encrypted : forall row, row ∈ t'.rows ->
    isEncrypted row.2 = true ∨ (row ∈ t.rows ∧ row ∉ rows)
  named : t'.Named

theorem migrateRows_migrates (nonces : Nat -> Nonce) {rows : List (Option Blob × Blob)}
    (hnamed : t.Named) (hnames : (rows.filterMap Prod.fst).Nodup)
    (hmem : forall row, row ∈ rows -> row ∈ t.rows) (rewritten : Nat) :
    Migrates box atRest rows t (migrateRows box atRest nonces rows t rewritten).1 := by
  induction rows generalizing t rewritten with
  | nil => exact ⟨fun _ => rfl, fun row hrow => Or.inr ⟨hrow, List.not_mem_nil⟩, hnamed⟩
  | cons row rest ih =>
      have hhead := hmem row List.mem_cons_self
      rcases row with ⟨_ | name, value⟩
      · exact absurd rfl (hnamed _ hhead)
      change (name :: rest.filterMap Prod.fst).Nodup at hnames
      rw [List.nodup_cons] at hnames
      unfold migrateRows
      split
      · rename_i hencrypted
        have hrest := ih hnamed hnames.2 (fun r hr => hmem r (List.mem_cons_of_mem _ hr))
          rewritten
        refine ⟨hrest.lookup, ?_, hrest.named⟩
        intro r hr
        rcases hrest.encrypted r hr with h | ⟨hold, hnot⟩
        · exact Or.inl h
        · by_cases heq : r = (some name, value)
          · rw [heq]
            exact Or.inl hencrypted
          · exact Or.inr ⟨hold, by simp [heq, hnot]⟩
      · rename_i hplain
        have hplain' : isEncrypted value = false := by
          simpa using hplain
        have hkept : forall r, r ∈ rest -> r ∈ (t.addSecret name
            (atRest.encrypt box (nonces rewritten) value)).rows := by
          intro r hr
          have hne : r.1 ≠ some name := by
            intro heq
            exact hnames.1 (List.mem_filterMap.mpr ⟨r, hr, heq⟩)
          apply List.mem_append_left
          rw [List.mem_filter]
          exact ⟨hmem r (List.mem_cons_of_mem _ hr), by simpa using hne⟩
        have hrest := ih (hnamed.addSecret _ _) hnames.2 hkept (rewritten + 1)
        refine ⟨?_, ?_, hrest.named⟩
        · intro name'
          refine (hrest.lookup name').trans ?_
          by_cases hname : name' = name
          · rw [hname, lookupSecret_addSecret, atRest.decrypt_encrypt,
              lookupSecret_of_mem hhead, atRest.decrypt_plaintext box hplain']
          · rw [lookupSecret_addSecret_of_ne hname]
        · intro r hr
          rcases hrest.encrypted r hr with h | ⟨hnew, hnot⟩
          · exact Or.inl h
          · rcases List.mem_append.mp hnew with hold | hadded
            · rcases List.mem_filter.mp hold with ⟨hmem', hne⟩
              have hrow : r ≠ (some name, value) := by
                intro heq
                rw [heq] at hne
                simp at hne
              exact Or.inr ⟨hmem', by simp [hrow, hnot]⟩
            · rw [List.mem_singleton.mp hadded]
              exact Or.inl (atRest.isEncrypted_encrypt box (nonces rewritten) value)

theorem migrateRows_encrypted (nonces : Nat -> Nonce) {rows : List (Option Blob × Blob)}
    (h : forall row, row ∈ rows -> isEncrypted row.2 = true) (rewritten : Nat) :
    migrateRows box atRest nonces rows t rewritten = (t, rewritten) := by
  induction rows with
  | nil => rfl
  | cons row rest ih =>
      unfold migrateRows
      rw [if_pos (h row List.mem_cons_self)]
      exact ih (fun r hr => h r (List.mem_cons_of_mem row hr))

end Migration

/-- If every row has a name, the migration keeps what every key means and encrypts all values,
and a second run finds nothing to do.  Decryption gives back what was encrypted. -/
theorem migration_preserves (box : SecretBox) (atRest : SecretsAtRest)
    (nonces nonces' : Nat -> Nonce) (t : ConfigSecrets) (hnamed : t.Named) :
    (forall name,
      lookupSecret box (some atRest)
          (migrateSecretsToEncrypted box (some atRest) nonces t).1 name =
        lookupSecret box (some atRest) t name) ∧
      (forall row, row ∈ (migrateSecretsToEncrypted box (some atRest) nonces t).1.rows ->
        isEncrypted row.2 = true) ∧
      migrateSecretsToEncrypted box (some atRest) nonces'
          (migrateSecretsToEncrypted box (some atRest) nonces t).1 =
        ((migrateSecretsToEncrypted box (some atRest) nonces t).1, 0) ∧
      forall nonce plaintext,
        atRest.decrypt box (atRest.encrypt box nonce plaintext) = .ok plaintext := by
  have hmigrates : Migrates box atRest t.rows t
      (migrateSecretsToEncrypted box (some atRest) nonces t).1 :=
    migrateRows_migrates nonces hnamed t.names (fun _ hrow => hrow) 0
  have hencrypted : forall row,
      row ∈ (migrateSecretsToEncrypted box (some atRest) nonces t).1.rows ->
        isEncrypted row.2 = true := by
    intro row hrow
    rcases hmigrates.encrypted row hrow with h | ⟨hold, hnot⟩
    · exact h
    · exact absurd hold hnot
  refine ⟨hmigrates.lookup, hencrypted, ?_, ?_⟩
  · exact migrateRows_encrypted nonces' hencrypted 0
  · intro nonce plaintext
    exact atRest.decrypt_encrypt box nonce plaintext

/-!
# A table that is written with and without the key
-/

def addSecret (secretsAtRest : Option SecretsAtRest) (nonce : Nonce) (t : ConfigSecrets)
    (name value : Blob) : ConfigSecrets :=
  match secretsAtRest with
  | none => t.addSecret name value
  | some atRest => t.addSecret name (atRest.encrypt box nonce value)

/-- Writers that have the key and writers that do not have it yet, and migrations. -/
inductive SecretEvent where
  | add (keyed : Bool) (nonce : Nonce) (name value : Blob)
  | migrate (nonces : Nat -> Nonce)

def SecretEvent.step (atRest : SecretsAtRest) (t : ConfigSecrets) : SecretEvent -> ConfigSecrets
  | .add keyed nonce name value =>
      addSecret box (if keyed then some atRest else none) nonce t name value
  | .migrate nonces => (migrateSecretsToEncrypted box (some atRest) nonces t).1

/-- What the secrets are meant to be. -/
def SecretEvent.assign (m : Blob -> Blob) : SecretEvent -> Blob -> Blob
  | .add _ _ name value => Function.update m name value
  | .migrate _ => m

/-- No value that is written without the key begins like an encrypted one. -/
def SecretEvent.Plain : SecretEvent -> Prop
  | .add keyed _ _ value => keyed = true ∨ isEncrypted value = false
  | .migrate _ => True

theorem lookupSecret_assign {box : SecretBox} {atRest : SecretsAtRest} {t : ConfigSecrets}
    {m : Blob -> Blob} {name' value stored : Blob}
    (h : forall name, lookupSecret box (some atRest) t name = .ok (m name))
    (hstored : atRest.decrypt box stored = .ok value) (name : Blob) :
    lookupSecret box (some atRest) (t.addSecret name' stored) name =
      .ok (Function.update m name' value name) := by
  show atRest.decrypt box _ = _
  by_cases hname : name = name'
  · rw [hname, lookupSecret_addSecret, hstored, Function.update_self]
  · rw [lookupSecret_addSecret_of_ne hname, Function.update_of_ne hname]
    exact h name

/-- The table means the last value that was written under each name, whoever wrote it and
whenever it was migrated, if no row without a name is there at the start. -/
theorem lookupSecret_run (box : SecretBox) (atRest : SecretsAtRest) (events : List SecretEvent)
    (hplain : forall event, event ∈ events -> event.Plain) (t : ConfigSecrets)
    (hnamed : t.Named) (m : Blob -> Blob)
    (h : forall name, lookupSecret box (some atRest) t name = .ok (m name)) :
    forall name, lookupSecret box (some atRest) (events.foldl (SecretEvent.step box atRest) t)
      name = .ok (events.foldl SecretEvent.assign m name) := by
  induction events generalizing t m with
  | nil => exact h
  | cons event rest ih =>
      have hfirst := hplain event List.mem_cons_self
      cases event with
      | migrate nonces =>
          have hmigrates : Migrates box atRest t.rows t _ :=
            migrateRows_migrates nonces hnamed t.names (fun _ hrow => hrow) 0
          exact ih (fun e he => hplain e (List.mem_cons_of_mem _ he)) _ hmigrates.named _
            (fun name => (hmigrates.lookup name).trans (h name))
      | add keyed nonce name' value =>
          refine ih (fun e he => hplain e (List.mem_cons_of_mem _ he)) _ ?_ _ ?_
          · cases keyed <;> exact hnamed.addSecret _ _
          · cases keyed with
            | true => exact lookupSecret_assign h (atRest.decrypt_encrypt box nonce value)
            | false =>
                exact lookupSecret_assign h
                  (atRest.decrypt_plaintext box (hfirst.resolve_left (by decide)))

/-- A transparent box, for a table of concrete values. -/
def SecretBox.plain : SecretBox where
  secretbox := fun plaintext _ _ => List.replicate 16 0 ++ plaintext
  secretboxOpen := fun cipher _ _ => some (cipher.drop 16)
  bin2base64 := fun blob => blob
  base642bin := fun encoded => some encoded
  open_secretbox := by
    intro plaintext nonce key
    rw [List.drop_left' (List.length_replicate)]
  secretbox_length := by
    intro plaintext nonce key
    simp
  base642bin_bin2base64 := fun _ => rfl

def zeroKey : SecretsAtRest where
  key := List.replicate 32 0
  size := List.length_replicate

def zeroNonce : Nonce where
  bytes := List.replicate 24 0
  size := List.length_replicate

/-- A plain value, an empty one, and one that begins like an encrypted value. -/
def mixedSecrets : ConfigSecrets where
  rows := [(some [97], [120, 121]), (some [98], []), (some [99], kVersionPrefix ++ [33])]
  names := by decide

theorem migration_preserves_mixed :
    lookupSecret SecretBox.plain (some zeroKey)
        (migrateSecretsToEncrypted SecretBox.plain (some zeroKey) (fun _ => zeroNonce)
          mixedSecrets).1 [98] =
      lookupSecret SecretBox.plain (some zeroKey) mixedSecrets [98] :=
  (migration_preserves SecretBox.plain zeroKey (fun _ => zeroNonce) (fun _ => zeroNonce)
    mixedSecrets (by simp [ConfigSecrets.Named, mixedSecrets])).1 [98]

/-- A row without a name. -/
def unnamedSecret : ConfigSecrets where
  rows := [(none, [112, 119])]
  names := by decide

/-- The empty key gets a value, the row stays plain, and each further run rewrites it. -/
theorem migration_unnamed :
    let migrate := migrateSecretsToEncrypted SecretBox.plain (some zeroKey) (fun _ => zeroNonce)
    lookupSecret SecretBox.plain (some zeroKey) (migrate unnamedSecret).1 [] ≠
        lookupSecret SecretBox.plain (some zeroKey) unnamedSecret [] ∧
      (none, [112, 119]) ∈ (migrate unnamedSecret).1.rows ∧ isEncrypted [112, 119] = false ∧
      (migrate (migrate unnamedSecret).1).2 = 1 := by
  decide

theorem lookupSecret_run_rotated :
    lookupSecret SecretBox.plain (some zeroKey)
        ([.add false zeroNonce [97] [120], .migrate (fun _ => zeroNonce),
          .add true zeroNonce [97] [121]].foldl
            (SecretEvent.step SecretBox.plain zeroKey) ⟨[], List.nodup_nil⟩) [97] =
      .ok [121] :=
  lookupSecret_run SecretBox.plain zeroKey _
    (by simp [SecretEvent.Plain, isEncrypted, kVersionPrefix]) _ (by simp [ConfigSecrets.Named])
    (fun _ => []) (fun _ => rfl) [97]

end Secrets
end ServerComponents
