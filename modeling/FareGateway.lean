import FareGateway.Identity.Bearer
import FareGateway.Gateway.Session
import FareGateway.Itinerary.Documents
import FareGateway.TimedCache.Session
import FareGateway.Proofs.Idling
import FareGateway.Proofs.Insertion
import FareGateway.Proofs.Merging
import FareGateway.Proofs.Stages
import FareGateway.Proofs.RouteHistory
import FareGateway.Proofs.Routing
import FareGateway.Proofs.Clashes
import FareGateway.Proofs.Renaming
import FareGateway.Proofs.Concatenation
import FareGateway.Proofs.Settling
import FareGateway.Proofs.Accounting
import FareGateway.Proofs.Hearing
import FareGateway.Proofs.Failing
import FareGateway.Proofs.Growth
import FareGateway.Proofs.Showing
import FareGateway.Proofs.Origins
import FareGateway.Proofs.Loading
import FareGateway.Proofs.Spelling
import FareGateway.Proofs.Printing
import FareGateway.Proofs.Parsing
import FareGateway.Proofs.Persistence
import FareGateway.Proofs.Probing
import FareGateway.Proofs.OptionCodes
import FareGateway.Proofs.SearchCourse
import FareGateway.Proofs.FirstAttempts
import FareGateway.Proofs.TimedContent
import FareGateway.Proofs.UnseenSweeps
import FareGateway.Proofs.Turnover
import FareGateway.Proofs.IssuerText
import FareGateway.Proofs.BearerTokens
import FareGateway.Proofs.Acceptance
import FareGateway.Proofs.Networks
import FareGateway.Proofs.Permanence
import FareGateway.Proofs.SeatMaps
import FareGateway.Proofs.References
import FareGateway.Proofs.Reordering
import FareGateway.Proofs.HandingOut
import FareGateway.Proofs.CallCourses
import FareGateway.Proofs.GivingUp
import FareGateway.Proofs.CivilDays
import FareGateway.Proofs.DateText
import FareGateway.Proofs.TimestampText
import FareGateway.Proofs.WrittenNumbers
import FareGateway.Proofs.Lossless
import FareGateway.Proofs.WrittenRecords
import FareGateway.Proofs.WrittenDocuments
import FareGateway.Proofs.Staleness
import FareGateway.Proofs.LoadedSettings
import FareGateway.Proofs.Identifiers
import FareGateway.Proofs.HashPolynomials
import FareGateway.Proofs.ChangedFields
import FareGateway.Proofs.ExactValues
import FareGateway.Proofs.NumberCodes
import FareGateway.Proofs.Registration
import FareGateway.Proofs.Collisions
import FareGateway.Proofs.Drawing
import FareGateway.Proofs.NearestValues
import FareGateway.Proofs.Cents
