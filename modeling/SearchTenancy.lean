import SearchTenancy.Backend.Memory
import SearchTenancy.Backend.Script
import SearchTenancy.Main
import SearchTenancy.Proofs.Batch.Bulk
import SearchTenancy.Proofs.Mapping.Schema
import SearchTenancy.Proofs.Tenant.Lifecycle
import SearchTenancy.Proofs.Mapping.Saving
import SearchTenancy.Proofs.Tenant.Operations
import SearchTenancy.Proofs.Tenant.Requests
import SearchTenancy.Proofs.Memory.Growth
import SearchTenancy.Proofs.Tenant.Runs
import SearchTenancy.Proofs.Settings.RoundTrip
import SearchTenancy.Proofs.Tenant.Isolation
import SearchTenancy.Proofs.Tenant.Existence
import SearchTenancy.Proofs.Tenant.Store
import SearchTenancy.Proofs.Tenant.Refinement
import SearchTenancy.Proofs.Memory.Documents
import SearchTenancy.Proofs.Tenant.Identity
import SearchTenancy.Proofs.Batch.Order
import SearchTenancy.Proofs.Tenant.Singles
import SearchTenancy.Proofs.Interleaving
import SearchTenancy.Proofs.Settings.Concurrent
import SearchTenancy.Proofs.Facet.Aggregation
import SearchTenancy.Proofs.Search.Expression
import SearchTenancy.Proofs.Search.Matching
import SearchTenancy.Proofs.Search.Order
import SearchTenancy.Proofs.Search.Answer
import SearchTenancy.Proofs.Tenant.Query
import SearchTenancy.Proofs.Conversation
import SearchTenancy.Proofs.Tenant.Discipline
import SearchTenancy.Proofs.Tenant.Reads
import SearchTenancy.Proofs.Tenant.Paging
import SearchTenancy.Proofs.Tenant.Agreement
import SearchTenancy.Proofs.Tenant.Moves
import SearchTenancy.Proofs.Settings.Meanwhile
import SearchTenancy.Proofs.Settings.Searchable
import SearchTenancy.Proofs.WireForms
import SearchTenancy.Proofs.Facet.Order
import SearchTenancy.Proofs.Search.Syntax
import SearchTenancy.Proofs.Tenant.SearchedFields
import SearchTenancy.Proofs.Http.Provisioning
import SearchTenancy.Proofs.Tenant.Generations
import SearchTenancy.Proofs.Facet.Integers
import SearchTenancy.Proofs.Tenant.FacetCounts
import SearchTenancy.Proofs.Batch.Correlation
import SearchTenancy.Proofs.Generation
import SearchTenancy.Proofs.Http.MissingDocuments
import SearchTenancy.Proofs.Connection.Attempts
import SearchTenancy.Proofs.Mapping.FieldOrder
