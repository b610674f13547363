import AddressGrammar.Validation.Validator

/-!
# Shorthands

The common validations as single functions. With `checkDomain`, domains have to be host names too.

## Main definitions

* `isAddress`, `isAddrSpec`, `isAddressList` — modern addresses
* `isLegacyAddress`, `isLegacyAddrSpec` — legacy addresses
-/

namespace AddressGrammar.Validation

/-- Whether a text is a modern mailbox or group. -/
def isAddress (text : String) (checkDomain : Bool) : Bool :=
  { Validator.modern with validateDomain := checkDomain }.validate text

/-- Whether a text is a bare modern address. -/
def isAddrSpec (text : String) (checkDomain : Bool) : Bool :=
  { Validator.modern.addrSpecOnly true with validateDomain := checkDomain }.validate text

/-- Whether a text is a list of modern addresses. -/
def isAddressList (text : String) (checkDomain : Bool) : Bool :=
  { Validator.modern with
    startRule := .addressList, validateDomain := checkDomain }.validate text

/-- Whether a text is a legacy mailbox or group. -/
def isLegacyAddress (text : String) (checkDomain : Bool) : Bool :=
  { Validator.legacy with validateDomain := checkDomain }.validate text

/-- Whether a text is a bare legacy address. -/
def isLegacyAddrSpec (text : String) (checkDomain : Bool) : Bool :=
  { Validator.legacy.addrSpecOnly true with validateDomain := checkDomain }.validate text

end AddressGrammar.Validation
