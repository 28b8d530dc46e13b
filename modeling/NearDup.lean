import NearDup.Config.Json
import NearDup.Main
import NearDup.Proofs.Creation.Classes
import NearDup.Proofs.Creation.Concurrency
import NearDup.Proofs.Creation.ExactDuplicates
import NearDup.Proofs.EditDistance.CommonEnds
import NearDup.Proofs.EditDistance.Matching
import NearDup.Proofs.Files.Atomicity
import NearDup.Proofs.Http.Effects
import NearDup.Proofs.Http.View
import NearDup.Proofs.NormalForm
import NearDup.Proofs.Storage.Failures
import NearDup.Proofs.Creation.Listings
import NearDup.Proofs.Creation.Strictness
import NearDup.Proofs.Http.Listings
import NearDup.Proofs.Csv.Layout
import NearDup.Proofs.Csv.Quoted
import NearDup.Proofs.Verb.Reading
import NearDup.Proofs.Opening
import NearDup.Proofs.Store.Layout
