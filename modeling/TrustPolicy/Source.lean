import TrustPolicy.AnchorSet
import TrustPolicy.Handle

/-!
# Certificate sources

A source supplies certificates under a label. A memory store holds distinct
certificates in the order in which they were added. A counting store keeps its
certificates as given and counts its queries and the announcements it gets. A
scripted store raises an error of choice and, at an announcement, looks at the
caches of the policies it watches.
-/

namespace TrustPolicy

/-- Distinct certificates in the order in which they were added. -/
structure MemoryStore where
  certificates : List Certificate
  deriving DecidableEq

namespace MemoryStore

/-- The store without certificates. -/
def empty : MemoryStore := ⟨[]⟩

/-- The store with a certificate added at the end unless it is present, and
whether it was added. -/
def add
    (store : MemoryStore)
    (certificate : Certificate) : MemoryStore × Bool :=
  if store.certificates.contains certificate then (store, false)
  else (⟨store.certificates ++ [certificate]⟩, true)

/-- The store without a certificate, and whether it was present. -/
def remove
    (store : MemoryStore)
    (certificate : Certificate) : MemoryStore × Bool :=
  let kept := store.certificates.filter fun other => other != certificate
  (⟨kept⟩, kept.length != store.certificates.length)

/-- The store of certificates that are added one after another. -/
def ofList (certificates : List Certificate) : MemoryStore :=
  certificates.foldl (fun store certificate => (store.add certificate).1) empty

/-- The number of certificates. -/
def size (store : MemoryStore) : Nat :=
  store.certificates.length

/-- Whether there are no certificates. -/
def isEmpty (store : MemoryStore) : Bool :=
  store.certificates.isEmpty

/-- The store under a label with its size. -/
def describe
    (store : MemoryStore)
    (label : String) : String :=
  Text.record "InMemoryCertificateSource"
    [("name", Text.quote label), ("certificates", toString store.size)]

end MemoryStore

/-- Certificates as given, with the numbers of queries and announcements. -/
structure CountingStore where
  certificates : List Certificate
  failing : Bool := false
  queries : Nat := 0
  announcements : Nat := 0
  deriving DecidableEq

/-- Certificates as given, an error to raise, and the policies that are watched
with what was seen of them. -/
structure ScriptedStore where
  certificates : List Certificate
  failure : Option PolicyError := none
  watched : List WeakPolicy := []
  seen : List Bool := []
  deriving DecidableEq

/-- What a source takes its certificates from. -/
inductive Store
  | memory (store : MemoryStore)
  | counting (store : CountingStore)
  | scripted (store : ScriptedStore)
  deriving DecidableEq

namespace Store

/-- The kinds of stores. -/
inductive Kind
  | memory
  | counting
  | scripted
  deriving DecidableEq

/-- A store of a kind that holds certificates and was not used yet. -/
def ofKind
    (kind : Kind)
    (certificates : List Certificate) : Store :=
  match kind with
  | .memory => .memory (MemoryStore.ofList certificates)
  | .counting => .counting { certificates }
  | .scripted => .scripted { certificates }

/-- A store with other certificates in place of those it had. -/
def replace
    (certificates : List Certificate) : Store → Store
  | .memory _ => .memory (MemoryStore.ofList certificates)
  | .counting store => .counting { store with certificates }
  | .scripted store => .scripted { store with certificates }

end Store

/-- A supplier of certificates. -/
structure Source where
  label : String
  store : Store
  deriving DecidableEq

namespace Source

instance : Inhabited Source := ⟨⟨"", .memory .empty⟩⟩

/-- What a query of the source answers. -/
def certificates (source : Source) : Except PolicyError (List Certificate) :=
  match source.store with
  | .memory store => .ok store.certificates
  | .counting store =>
      if store.failing then .error (.certificateSource source.label "store unavailable")
      else .ok store.certificates
  | .scripted store =>
      match store.failure with
      | some error => .error error
      | none => .ok store.certificates

/-- The source after a query. -/
def queried (source : Source) : Source :=
  match source.store with
  | .counting store =>
      { source with store := .counting { store with queries := store.queries + 1 } }
  | _ => source

/-- The source after it was told that storage has changed. What it sees of a
watched policy is given; nothing is seen of a policy that is gone. -/
def announced
    (source : Source)
    (look : WeakPolicy → Option Bool) : Source :=
  match source.store with
  | .memory _ => source
  | .counting store =>
      { source with store := .counting { store with announcements := store.announcements + 1 } }
  | .scripted store =>
      { source with
        store := .scripted { store with seen := store.seen ++ store.watched.filterMap look } }

@[simp] theorem label_queried (source : Source) : source.queried.label = source.label := by
  unfold queried
  split <;> rfl

/-- A query does not change what later queries answer. -/
@[simp] theorem certificates_queried (source : Source) :
    source.queried.certificates = source.certificates := by
  obtain ⟨label, store⟩ := source
  cases store <;> rfl

end Source

end TrustPolicy
