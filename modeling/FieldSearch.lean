import FieldSearch.Proofs.Field.Exchange
import FieldSearch.Proofs.Number.Integer
import FieldSearch.Proofs.Query.Equality
import FieldSearch.Proofs.Query.HalfOpen
import FieldSearch.Proofs.Query.Reflexive
import FieldSearch.Proofs.Settings.File
import FieldSearch.Proofs.Sort.Clause
import FieldSearch.Proofs.Sort.Composition
import FieldSearch.Proofs.Sort.Entry
import FieldSearch.Proofs.Sort.RoundTrip
import FieldSearch.Proofs.Time.Acceptance
import FieldSearch.Proofs.Time.Attempts
import FieldSearch.Proofs.Time.RoundTrip
import FieldSearch.Proofs.WordPattern.Case
import FieldSearch.Proofs.WordPattern.Inclusion
import FieldSearch.Proofs.WordPattern.NormalForm
import FieldSearch.Proofs.WordPattern.OwnText
