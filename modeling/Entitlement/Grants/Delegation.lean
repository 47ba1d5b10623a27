/-
This file decides who may grant and revoke. A grantor in an admin group may; so may one of
whose groups some role holds a privilege that may be passed on and covers the one in question.
-/

import Entitlement.Grants.Lookup

namespace Entitlement

/-- A grantor must have a name. -/
def requireGrantor (grantor : String) : Except StoreError Unit :=
  if Text.isBlankText grantor then .error (.invalidInput "grantor must not be blank") else .ok ()

namespace Ledger

/-- Whether the grantor, who belongs to the groups, may grant and revoke the privilege. The
names of the admin groups are normalized. -/
def mayPassOn (ledger : Ledger) (catalogue : Catalogue) (adminGroups : OrderedSet String)
    (privilege : Privilege) (groups : List String) : Except StoreError Bool :=
  if (normalizeAll groups).elements.any adminGroups.contains then .ok true
  else do
    let held ← ledger.privilegesOfRoles catalogue (ledger.rolesOfGroups groups)
    return held.any fun other =>
      other.grantOption == some true && other.covers catalogue.vocabularies privilege

/-- Refuses a grantor who may not grant and revoke the privilege. -/
def checkGrantor (ledger : Ledger) (catalogue : Catalogue) (adminGroups : OrderedSet String)
    (privilege : Privilege) (grantor : String) (groups : List String) :
    Except StoreError Unit := do
  requireGrantor grantor
  if ← ledger.mayPassOn catalogue adminGroups privilege groups then return
  throw (.grantDenied (grantor ++ " has no grant option covering " ++ privilege.text))

end Ledger

end Entitlement
