import Proforma.Json.Printer
import Proforma.Scenario.Record
import Proforma.Service.Batch
import Proforma.Service.Http
import Proforma.Service.Session
import Proforma.Study.Record
import Proforma.Proofs.Offline.Agreement
import Proforma.Proofs.Service.BatchCancelling
import Proforma.Proofs.Scenario.Echo
import Proforma.Proofs.Service.Stored
import Proforma.Proofs.Number.Whole
import Proforma.Proofs.Number.Value
import Proforma.Proofs.Scenario.Integers
import Proforma.Proofs.Study.ProjectNumber
import Proforma.Proofs.Json.Records
import Proforma.Proofs.Study.Bodies
import Proforma.Proofs.Scenario.Survival
import Proforma.Proofs.Service.BatchAnswers
import Proforma.Proofs.Files.Writing
import Proforma.Proofs.Service.Exporting
import Proforma.Proofs.Service.FirstCause
import Proforma.Proofs.Service.Course
import Proforma.Proofs.Service.Log
import Proforma.Proofs.Study.Terms
import Proforma.Proofs.Offline.Project
import Proforma.Proofs.Json.Kinds
import Proforma.Proofs.Offline.Study
import Proforma.Proofs.Scenario.Degrading
import Proforma.Proofs.Scenario.Independence
import Proforma.Proofs.Scenario.NormalForm
import Proforma.Proofs.Scenario.Signs
import Proforma.Proofs.Service.Guarding
import Proforma.Proofs.Scenario.Remainder
import Proforma.Proofs.Scenario.Denomination
import Proforma.Proofs.Scenario.Relabelling
import Proforma.Proofs.Study.Shape
import Proforma.Proofs.Scenario.Collections
import Proforma.Proofs.Scenario.Ordering
import Proforma.Proofs.Service.Identity
import Proforma.Proofs.Study.ProjectKey
import Proforma.Proofs.Service.Observers
import Proforma.Proofs.Service.Settings
import Proforma.Proofs.Scenario.Products
