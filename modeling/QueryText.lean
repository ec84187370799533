import QueryText.SettingsText
import QueryText.Dialect.Generator
import QueryText.Mapping.Record
import QueryText.Statement.Delete
import QueryText.Statement.Insert
import QueryText.Statement.Part
import QueryText.Statement.Select
import QueryText.Statement.Update
import QueryText.Proofs.Fragment
import QueryText.Proofs.Request
import QueryText.Proofs.Clause
import QueryText.Proofs.Comment
import QueryText.Proofs.Marker
import QueryText.Proofs.Phrase
import QueryText.Proofs.Evaluation
import QueryText.Proofs.Meaning
import QueryText.Proofs.Unambiguous
import QueryText.Proofs.Pass
import QueryText.Proofs.InPlace
import QueryText.Proofs.Session
import QueryText.Proofs.Resolution
import QueryText.Proofs.Renaming
import QueryText.Proofs.Retyping
import QueryText.Proofs.Instantiation
import QueryText.Proofs.Transparency
import QueryText.Proofs.Construction
import QueryText.Proofs.Dialects
import QueryText.Proofs.Faults
import QueryText.Proofs.Paging
import QueryText.Proofs.Removal
import QueryText.Proofs.Commutation
import QueryText.Mapping.Instance
import QueryText.Proofs.Binding
import QueryText.Proofs.Derivation
import QueryText.Proofs.Position
import QueryText.Proofs.Equation
import QueryText.Proofs.Selection
import QueryText.Proofs.Membership
import QueryText.Proofs.HostArithmetic
import QueryText.Proofs.OperandOrder
import QueryText.Proofs.Numeral
import QueryText.Proofs.Window
import QueryText.Proofs.Decoding
import QueryText.Proofs.QuotedName
import QueryText.Proofs.Items
import QueryText.Proofs.Alignment
import QueryText.Proofs.Counting
import QueryText.Proofs.ExactArithmetic
import QueryText.Proofs.Search
import QueryText.Proofs.ParameterTypes
import QueryText.Proofs.HostOrder
import QueryText.Proofs.Retraction
import QueryText.Proofs.CapturedPath
import QueryText.Proofs.Grouping
import QueryText.Proofs.LiteralOrder
import QueryText.Proofs.Truncation
import QueryText.Proofs.Generator
import QueryText.Proofs.Classification
