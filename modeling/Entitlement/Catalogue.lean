/-
This file holds the catalogue of what can be granted, the vocabularies and the hierarchies of
all components, and turns privileges into record keys and records into privileges by it.
-/

import Entitlement.Covering
import Entitlement.Ledger.Basic

namespace Entitlement

structure Catalogue where
  vocabularies : Vocabularies
  hierarchies : Hierarchies

namespace Catalogue

instance : Inhabited Catalogue := ⟨⟨default, default⟩⟩

def all (catalogue : Catalogue) (component : String) : Except StoreError Action :=
  StoreError.lift (catalogue.vocabularies.all component)

def resolve (catalogue : Catalogue) (component action : String) : Except StoreError Action :=
  StoreError.lift (catalogue.vocabularies.resolve component action)

def encode (catalogue : Catalogue) (component : String) (steps : List Step) :
    Except StoreError StoredPath :=
  StoreError.lift (catalogue.hierarchies.encode component steps)

def decode (catalogue : Catalogue) (component : String) (path : StoredPath) :
    Except StoreError (List Step) :=
  StoreError.lift (catalogue.hierarchies.decode component path)

/-- The key of the record of a privilege. -/
def toKey (catalogue : Catalogue) (privilege : Privilege) : Except StoreError RecordKey := do
  let action ← catalogue.resolve privilege.component privilege.action
  let path ← catalogue.encode privilege.component privilege.steps
  return {
    component := privilege.component
    service := privilege.service
    action := action.name
    scope := privilege.scope
    grantOption := privilege.grantOption
    path := path }

/-- The privilege that a key is the key of. -/
def ofKey (catalogue : Catalogue) (key : RecordKey) : Except StoreError Privilege := do
  let steps ← catalogue.decode key.component key.path
  StoreError.lift <| PrivilegeDraft.build {
    component := key.component
    service := key.service
    action := key.action
    scope := key.scope
    grantOption := key.grantOption
    steps := steps }

/-- The privileges of records in their order, each once. -/
def ofRecords (catalogue : Catalogue) (records : List Record) :
    Except StoreError (List Privilege) :=
  (records.mapM fun record => catalogue.ofKey record.key).map List.eraseDups

end Catalogue

end Entitlement
