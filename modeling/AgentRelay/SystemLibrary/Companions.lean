import AgentRelay.SystemLibrary.Table

set_option autoImplicit false

/-!
# The tables of the other libraries

The unwinder belongs to most programs.  Of the other libraries some have become parts of the system library; what is
left of them has no symbols that a search without a version finds.
-/

namespace AgentRelay.SystemLibrary

/-- The unwinder. -/
def unwinder : LibraryTable where
  name := "libgcc_s.so.1"
  needs := ["libc.so.6", "ld-linux-x86-64.so.2"]
  versions := [
    "GCC_3.0", "GCC_3.3", "GCC_3.3.1", "GCC_3.4", "GCC_3.4.2", "GCC_3.4.4", "GCC_4.0.0", "GCC_4.2.0",
    "GCC_4.3.0", "GCC_4.7.0", "GCC_4.8.0", "GCC_7.0.0", "GCC_12.0.0", "GCC_13.0.0", "GCC_14.0.0"]
  places := [
    "_Unwind_Backtrace@@3 _Unwind_DeleteException _Unwind_FindEnclosingFunction@@3 _Unwind_Find_FDE",
    "_Unwind_ForcedUnwind _Unwind_GetCFA@@3 _Unwind_GetDataRelBase _Unwind_GetGR _Unwind_GetIP",
    "_Unwind_GetIPInfo@@9 _Unwind_GetLanguageSpecificData _Unwind_GetRegionStart _Unwind_GetTextRelBase",
    "_Unwind_RaiseException _Unwind_Resume _Unwind_Resume_or_Rethrow@@3 _Unwind_SetGR _Unwind_SetIP __absvdi2",
    "__absvsi2 __absvti2@@7 __addtf3@@10 __addvdi3 __addvsi3 __addvti3@@7 __ashlti3 __ashrti3 __bswapdi2@@10",
    "__bswapsi2@@10 __clear_cache __clrsbdi2@@11 __clrsbti2@@11 __clzdi2@@5 __clzti2@@5 __cmpti2",
    "__cpu_indicator_init@12 __cpu_model@12 __ctzdi2@@5 __ctzti2@@5 __deregister_frame __deregister_frame_info",
    "__deregister_frame_info_bases __divdc3@@8 __divhc3@@14 __divmodbitint4@@16 __divmodti4@@13 __divsc3@@8",
    "__divtc3@@10=__divtc3@8 __divtf3@@10 __divti3 __divxc3@@8 __emutls_get_address@@10",
    "__emutls_register_common@@10 __enable_execute_stack@@6 __eqhf2@@14=__nehf2@@14",
    "__eqtf2@@10=__netf2@@10=__netf2@2 __extendbfsf2@@15 __extenddftf2@@10 __extendhfdf2@@14 __extendhfsf2@@14",
    "__extendhftf2@@14 __extendhfxf2@@14 __extendsfdf2 __extendsftf2@@10 __extendxftf2@@10 __ffsdi2 __ffsti2",
    "__fixdfbitint@@16 __fixdfti __fixhfti@@14 __fixsfbitint@@16 __fixsfti __fixtfbitint@@16 __fixtfdi@@10",
    "__fixtfsi@@10 __fixtfti@@10 __fixunsdfdi __fixunsdfti __fixunshfti@@14 __fixunssfdi __fixunssfti",
    "__fixunstfdi@@10 __fixunstfsi@@10 __fixunstfti@@10 __fixunsxfdi __fixunsxfti __fixxfbitint@@16 __fixxfti",
    "__floatbitintbf@@16 __floatbitintdf@@16 __floatbitinthf@@16 __floatbitintsf@@16 __floatbitinttf@@16",
    "__floatbitintxf@@16 __floatditf@@10 __floatsitf@@10 __floattibf@@15 __floattidf __floattihf@@14 __floattisf",
    "__floattitf@@10 __floattixf __floatunditf@@10 __floatunsitf@@10 __floatuntibf@@15 __floatuntidf@@9",
    "__floatuntihf@@14 __floatuntisf@@9 __floatuntitf@@10 __floatuntixf@@9 __gcc_nested_func_ptr_created@@16",
    "__gcc_nested_func_ptr_deleted@@16 __gcc_personality_v0@@4 __getf2@@10=__gttf2@@10=__gttf2@2",
    "__hardcfr_check@@16 __letf2@@10=__lttf2@@10=__lttf2@2 __lshrti3 __modti3 __mulbitint3@@16 __muldc3@@8",
    "__mulhc3@@14 __mulsc3@@8 __multc3@@10=__multc3@8 __multf3@@10 __multi3 __mulvdi3 __mulvsi3 __mulvti3@@7",
    "__mulxc3@@8 __negtf2@@10 __negti2 __negvdi2 __negvsi2 __negvti2@@7 __paritydi2@@5 __parityti2@@5",
    "__popcountdi2@@5 __popcountti2@@5 __powidf2@@8 __powisf2@@8 __powitf2@@10=__powitf2@8 __powixf2@@8",
    "__register_frame __register_frame_info __register_frame_info_bases __register_frame_info_table",
    "__register_frame_info_table_bases __register_frame_table __strub_enter@@16 __strub_leave@@16",
    "__strub_update@@16 __subtf3@@10 __subvdi3 __subvsi3 __subvti3@@7 __truncdfbf2@@15 __truncdfhf2@@14",
    "__truncdfsf2 __trunchfbf2@@15 __truncsfbf2@@15 __truncsfhf2@@14 __trunctfbf2@@15 __trunctfdf2@@10",
    "__trunctfhf2@@14 __trunctfsf2@@10 __trunctfxf2@@10 __truncxfbf2@@15 __truncxfhf2@@14 __ucmpti2 __udivmodti4",
    "__udivti3 __umodti3 __unordtf2@@10"]

/-- The former library for loading libraries. -/
def dynamicLoading : LibraryTable where
  name := "libdl.so.2"
  needs := ["libc.so.6"]
  versions := ["GLIBC_2.2.5", "GLIBC_2.3.3", "GLIBC_2.3.4"]
  places := [
    "__libdl_version_placeholder@2=__libdl_version_placeholder@3=__libdl_version_placeholder@4"]

/-- The former library for threads. -/
def threads : LibraryTable where
  name := "libpthread.so.0"
  needs := ["libc.so.6"]
  versions := [
    "GLIBC_2.2.5", "GLIBC_2.2.6", "GLIBC_2.3.2", "GLIBC_2.3.3", "GLIBC_2.3.4", "GLIBC_2.4", "GLIBC_2.11",
    "GLIBC_2.12", "GLIBC_2.18", "GLIBC_2.28", "GLIBC_2.30", "GLIBC_2.31"]
  places := [
    "__libpthread_version_placeholder@2=__libpthread_version_placeholder@3=__libpthread_version_placeholder@4=__libpthread_version_placeholder@5=__libpthread_version_placeholder@6=__libpthread_version_placeholder@7=__libpthread_version_placeholder@8=__libpthread_version_placeholder@9=__libpthread_version_placeholder@10=__libpthread_version_placeholder@11=__libpthread_version_placeholder@12=__libpthread_version_placeholder@13"]

/-- The former library for timers and queues. -/
def realTime : LibraryTable where
  name := "librt.so.1"
  needs := ["libc.so.6"]
  versions := [
    "GLIBC_2.2.5", "GLIBC_2.3.3", "GLIBC_2.3.4", "GLIBC_2.4", "GLIBC_2.7"]
  places := [
    "__librt_version_placeholder@2=__librt_version_placeholder@3=__librt_version_placeholder@4=__librt_version_placeholder@5=__librt_version_placeholder@6"]

/-- The former library for terminals and logins. -/
def utilities : LibraryTable where
  name := "libutil.so.1"
  needs := ["libc.so.6"]
  versions := ["GLIBC_2.2.5"]
  places := ["__libutil_version_placeholder@2"]

/-- The library that asks name servers. -/
def nameResolution : LibraryTable where
  name := "libresolv.so.2"
  needs := ["libc.so.6"]
  versions := ["GLIBC_2.2.5", "GLIBC_2.3.2", "GLIBC_2.9", "GLIBC_PRIVATE"]
  places := [
    "__b64_ntop __b64_pton __dn_count_labels __fp_nquery __fp_query __fp_resstat __hostalias __loc_aton",
    "__loc_ntoa __ns_get16@@5=ns_get16@@4 __ns_get32@@5=ns_get32@@4 __p_cdname __p_cdnname __p_class",
    "__p_class_syms __p_fqname __p_fqnname __p_option __p_query __p_rcode@@3 __p_secstodate@2 __p_time __p_type",
    "__p_type_syms __putlong __putshort __res_close __res_hostalias __res_isourserver __res_nameinquery",
    "__res_queriesmatch __sym_ntop __sym_ntos __sym_ston _gethtbyaddr@2 _gethtbyname2@2 _gethtbyname@2",
    "_gethtent@2 _getlong _getshort _res_opcodes _sethtent@2 inet_net_ntop inet_net_pton inet_neta",
    "ns_datetosecs@@4 ns_format_ttl@@4 ns_initparse@@4 ns_makecanon@@4 ns_msg_getflag@@4 ns_name_ntol@@4",
    "ns_name_rollback@@4 ns_parse_ttl@@4 ns_parserr@@4 ns_put16@@4 ns_put32@@4 ns_samedomain@@4 ns_samename@@4",
    "ns_skiprr@@4 ns_sprintrr@@4 ns_sprintrrf@@4 ns_subdomain@@4 res_gethostbyaddr@2 res_gethostbyname2@2",
    "res_gethostbyname@2 res_send_setqhook@2 res_send_setrhook@2"]

/-- The former library that asks name servers while the program runs on. -/
def asynchronousNames : LibraryTable where
  name := "libanl.so.1"
  needs := ["libc.so.6"]
  versions := ["GLIBC_2.2.5"]
  places := ["__libanl_version_placeholder@2"]

/-- The library for programs that misread locales. -/
def brokenLocale : LibraryTable where
  name := "libBrokenLocale.so.1"
  needs := ["libc.so.6"]
  versions := ["GLIBC_2.2.5"]
  places := ["__ctype_get_mb_cur_max"]

/-- The library of a network directory. -/
def networkServices : LibraryTable where
  name := "libnsl.so.1"
  needs := ["libc.so.6"]
  versions := ["GLIBC_2.2.5", "GLIBC_PRIVATE"]
  places := [
    "__create_ib_request@3 __do_niscall3@3 __follow_path@3 __free_fdresult@2 __nis_default_access@2",
    "__nis_default_group@2 __nis_default_owner@2 __nis_default_ttl@2 __nis_finddirectory@2 __nis_hash@2",
    "__nisbind_connect@2 __nisbind_create@2 __nisbind_destroy@2 __nisbind_next@2 __prepare_niscall@3 __yp_check@2",
    "_xdr_ib_request@3 _xdr_nis_result@3 nis_add@2 nis_add_entry@2 nis_addmember@2 nis_checkpoint@2",
    "nis_clone_directory@2 nis_clone_object@2 nis_clone_result@2 nis_creategroup@2 nis_destroy_object@2",
    "nis_destroygroup@2 nis_dir_cmp@2 nis_domain_of@2 nis_domain_of_r@2 nis_first_entry@2 nis_free_directory@2",
    "nis_free_object@2 nis_free_request@2 nis_freenames@2 nis_freeresult@2 nis_freeservlist@2 nis_freetags@2",
    "nis_getnames@2 nis_getservlist@2 nis_ismember@2 nis_leaf_of@2 nis_leaf_of_r@2 nis_lerror@2 nis_list@2",
    "nis_local_directory@2 nis_local_group@2 nis_local_host@2 nis_local_principal@2 nis_lookup@2 nis_mkdir@2",
    "nis_modify@2 nis_modify_entry@2 nis_name_of@2 nis_name_of_r@2 nis_next_entry@2 nis_perror@2 nis_ping@2",
    "nis_print_directory@2 nis_print_entry@2 nis_print_group@2 nis_print_group_entry@2 nis_print_link@2",
    "nis_print_object@2 nis_print_result@2 nis_print_rights@2 nis_print_table@2 nis_read_obj@2 nis_remove@2",
    "nis_remove_entry@2 nis_removemember@2 nis_rmdir@2 nis_servstate@2 nis_sperrno@2 nis_sperror@2",
    "nis_sperror_r@2 nis_stats@2 nis_verifygroup@2 nis_write_obj@2 readColdStartFile@2 writeColdStartFile@2",
    "xdr_cback_data@2 xdr_domainname@2 xdr_keydat@2 xdr_mapname@2 xdr_obj_p@2 xdr_peername@2 xdr_valdat@2",
    "xdr_yp_buf@2 xdr_ypall@2 xdr_ypbind_binding@2 xdr_ypbind_resp@2 xdr_ypbind_resptype@2 xdr_ypbind_setdom@2",
    "xdr_ypdelete_args@2 xdr_ypmap_parms@2 xdr_ypmaplist@2 xdr_yppush_status@2 xdr_yppushresp_xfr@2",
    "xdr_ypreq_key@2 xdr_ypreq_nokey@2 xdr_ypreq_xfr@2 xdr_ypresp_all@2 xdr_ypresp_key_val@2 xdr_ypresp_maplist@2",
    "xdr_ypresp_master@2 xdr_ypresp_order@2 xdr_ypresp_val@2 xdr_ypresp_xfr@2 xdr_ypstat@2 xdr_ypupdate_args@2",
    "xdr_ypxfrstat@2 yp_all@2 yp_bind@2 yp_first@2 yp_get_default_domain@2 yp_maplist@2 yp_master@2 yp_match@2",
    "yp_next@2 yp_order@2 yp_unbind@2 yp_update@2 ypbinderr_string@2 yperr_string@2 ypprot_err@2"]

/-- The library that shows threads to debuggers. -/
def threadDebugging : LibraryTable where
  name := "libthread_db.so.1"
  needs := ["libc.so.6"]
  versions := ["GLIBC_2.2.5", "GLIBC_2.3", "GLIBC_2.3.3"]
  places := [
    "td_init td_log td_symbol_list td_ta_clear_event td_ta_delete td_ta_enable_stats td_ta_event_addr",
    "td_ta_event_getmsg td_ta_get_nthreads td_ta_get_ph td_ta_get_stats td_ta_map_id2thr td_ta_map_lwp2thr",
    "td_ta_new td_ta_reset_stats td_ta_set_event td_ta_setconcurrency td_ta_thr_iter td_ta_tsd_iter",
    "td_thr_clear_event td_thr_dbresume td_thr_dbsuspend td_thr_event_enable td_thr_event_getmsg td_thr_get_info",
    "td_thr_getfpregs td_thr_getgregs td_thr_getxregs td_thr_getxregsize td_thr_set_event td_thr_setfpregs",
    "td_thr_setgregs td_thr_setprio td_thr_setsigpending td_thr_setxregs td_thr_sigsetmask td_thr_tls_get_addr@@3",
    "td_thr_tlsbase@@4 td_thr_tsd td_thr_validate"]

/-- The library that checks the use of memory. -/
def memoryDebugging : LibraryTable where
  name := "libc_malloc_debug.so.0"
  needs := ["libc.so.6", "ld-linux-x86-64.so.2"]
  versions := ["GLIBC_2.2.5", "GLIBC_2.10", "GLIBC_2.16", "GLIBC_2.33"]
  places := [
    "__free_hook@2 __malloc_hook@2 __memalign_hook@2 __realloc_hook@2 aligned_alloc@4 calloc@2 free@2 mallinfo2@5",
    "mallinfo@2 malloc@2 malloc_get_state@2 malloc_info@3 malloc_set_state@2 malloc_stats@2 malloc_trim@2",
    "malloc_usable_size@2 mallopt@2 mcheck@2 mcheck_check_all@2 mcheck_pedantic@2 memalign@2 mprobe@2 mtrace@2",
    "muntrace@2 posix_memalign@2 pvalloc@2 realloc@2 valloc@2"]

/-- The library that finds users in files and in a network directory. -/
def compatibleUsers : LibraryTable where
  name := "libnss_compat.so.2"
  needs := ["libc.so.6"]
  versions := ["GLIBC_PRIVATE"]
  places := [
    "_nss_compat_endgrent _nss_compat_endpwent _nss_compat_endspent _nss_compat_getgrent_r _nss_compat_getgrgid_r",
    "_nss_compat_getgrnam_r _nss_compat_getpwent_r _nss_compat_getpwnam_r _nss_compat_getpwuid_r",
    "_nss_compat_getspent_r _nss_compat_getspnam_r _nss_compat_initgroups_dyn _nss_compat_setgrent",
    "_nss_compat_setpwent _nss_compat_setspent"]

/-- The former library that finds hosts by name servers. -/
def servedNames : LibraryTable where
  name := "libnss_dns.so.2"
  needs := ["libc.so.6"]
  versions := ["GLIBC_PRIVATE"]
  places := []

/-- The former library that finds users and hosts in files. -/
def filedNames : LibraryTable where
  name := "libnss_files.so.2"
  needs := ["libc.so.6"]
  versions := ["GLIBC_PRIVATE"]
  places := []

/-- The library that finds users by name servers. -/
def hesiodNames : LibraryTable where
  name := "libnss_hesiod.so.2"
  needs := ["libresolv.so.2", "libc.so.6"]
  versions := ["GLIBC_PRIVATE"]
  places := [
    "_nss_hesiod_endgrent _nss_hesiod_endprotoent _nss_hesiod_endpwent _nss_hesiod_endservent",
    "_nss_hesiod_getgrgid_r _nss_hesiod_getgrnam_r _nss_hesiod_getprotobyname_r _nss_hesiod_getprotobynumber_r",
    "_nss_hesiod_getpwnam_r _nss_hesiod_getpwuid_r _nss_hesiod_getservbyname_r _nss_hesiod_getservbyport_r",
    "_nss_hesiod_initgroups_dyn _nss_hesiod_setgrent _nss_hesiod_setprotoent _nss_hesiod_setpwent",
    "_nss_hesiod_setservent"]

end AgentRelay.SystemLibrary
