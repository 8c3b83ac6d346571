import RecordFilter.Catalog

/-!
# The standard catalogs

* `RecordKind` — people, companies and deals.
* `RecordKind.catalog` — the catalog each of them has unless another one is given.
-/

set_option autoImplicit false

namespace RecordFilter

/-- The sorts of records that lists are made of. -/
inductive RecordKind where
  | people
  | companies
  | deals
  deriving DecidableEq

namespace RecordKind

/-- All sorts of records. -/
def all : List RecordKind := [people, companies, deals]

/-- The name of a sort of records. -/
def name : RecordKind → String
  | people => "people"
  | companies => "companies"
  | deals => "deals"

/-- The sort of records with exactly this name. -/
def ofName? (text : String) : Option RecordKind := all.find? fun kind => kind.name == text

/-- Reads a stored sort of records. -/
def ofJson? (j : Json) : Option RecordKind := j.choice?.bind ofName?

/-- The standard catalog of a sort of records. -/
def catalog : RecordKind → Catalog
  | people => ⟨[
      .ofPath "name" .text,
      .ofPath "email" .email,
      .ofPath "phone" .phone,
      .ofPath "jobTitle" .text,
      .ofPath "status" .select,
      .ofPath "age" .number,
      ⟨"social.linkedIn", "LinkedIn", .url⟩,
      ⟨"social.twitter", "Twitter", .url⟩,
      ⟨"isFavorite", "Favorite", .boolean⟩,
      ⟨"createdAt", "Created", .date⟩]⟩
  | companies => ⟨[
      .ofPath "name" .text,
      .ofPath "domain" .url,
      .ofPath "industry" .select,
      .ofPath "employees" .number,
      .ofPath "logo" .image,
      ⟨"address.city", "City", .text⟩,
      ⟨"address.country", "Country", .text⟩,
      ⟨"createdAt", "Created", .date⟩]⟩
  | deals => ⟨[
      .ofPath "name" .text,
      .ofPath "stage" .select,
      .ofPath "amount" .number,
      .ofPath "probability" .number,
      .ofPath "closeDate" .date,
      ⟨"isWon", "Won", .boolean⟩,
      ⟨"companyId", "Company", .id⟩,
      ⟨"createdAt", "Created", .date⟩]⟩

end RecordKind
end RecordFilter
